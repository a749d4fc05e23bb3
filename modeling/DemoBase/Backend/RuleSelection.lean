import DemoBase.Backend.AccessRules
import DemoBase.Foundations.Segments

/-!
Owns the meaning of rule selection on path segments. The middleware compares
strings; here the same selection is stated on the lists of segments between the
slashes, where a rule covers a path exactly when its segments start those of the
path.
-/

set_option autoImplicit false

namespace DemoBase.Backend

open DemoBase.Foundations.Segments DemoBase.Foundations.Selection

/-- `path.split("/")`: the empty segments of leading, trailing and doubled
slashes are kept. -/
def segments (path : String) : List (List Char) :=
  path.toList.splitOn '/'

/-- The whole segments of `configuredPath` start the segments of `requestPath`. -/
def Covers (configuredPath requestPath : String) : Prop :=
  segments configuredPath <+: segments requestPath

instance (configuredPath requestPath : String) :
    Decidable (Covers configuredPath requestPath) :=
  inferInstanceAs (Decidable (_ <+: _))

/-- `entry` covers the path with more segments than every covering entry listed
before it and with at least as many as every covering entry listed after it. -/
def FirstDeepest (pathAccess : List PathAccessConfig) (requestPath : String)
    (entry : PathAccessConfig) : Prop :=
  ∃ before after, pathAccess = before ++ entry :: after ∧ Covers entry.path requestPath ∧
    (∀ other ∈ before, Covers other.path requestPath →
      (segments other.path).length < (segments entry.path).length) ∧
    ∀ other ∈ after, Covers other.path requestPath →
      (segments other.path).length ≤ (segments entry.path).length

/-- The string comparison of the middleware is the comparison of segments. -/
theorem pathMatches_iff_covers (requestPath configuredPath : String) :
    pathMatches requestPath configuredPath = true ↔ Covers configuredPath requestPath := by
  have slash : (configuredPath ++ "/").toList = configuredPath.toList ++ ['/'] := by
    rw [String.toList_append]
    rfl
  unfold pathMatches Covers segments
  rw [Bool.or_eq_true, beq_iff_eq, List.isPrefixOf_iff_prefix, slash, splitOn_prefix_iff,
    String.toList_inj]

/-- Of two rules that cover one path, the longer string has more segments. -/
theorem Covers.length_le_iff {left right requestPath : String}
    (leftCovers : Covers left requestPath) (rightCovers : Covers right requestPath) :
    left.length ≤ right.length ↔ (segments left).length ≤ (segments right).length := by
  have ordered := length_le_iff_of_segments leftCovers rightCovers
  rwa [String.length_toList, String.length_toList] at ordered

theorem Covers.length_lt_iff {left right requestPath : String}
    (leftCovers : Covers left requestPath) (rightCovers : Covers right requestPath) :
    left.length < right.length ↔ (segments left).length < (segments right).length := by
  rw [← not_le, ← not_le, rightCovers.length_le_iff leftCovers]

/-- Standing first among the longest strings is standing first among the deepest
segment lists. -/
theorem overrides_iff {before after : List PathAccessConfig} {entry : PathAccessConfig}
    {requestPath : String} :
    Overrides before entry after requestPath ↔
      Covers entry.path requestPath ∧
        (∀ other ∈ before, Covers other.path requestPath →
          (segments other.path).length < (segments entry.path).length) ∧
        ∀ other ∈ after, Covers other.path requestPath →
          (segments other.path).length ≤ (segments entry.path).length := by
  unfold Overrides
  simp only [pathMatches_iff_covers]
  apply and_congr_right
  intro covers
  apply and_congr
  · apply forall₃_congr
    intro other _ otherCovers
    exact otherCovers.length_lt_iff covers
  · apply forall₃_congr
    intro other _ otherCovers
    exact otherCovers.length_le_iff covers

theorem findMatchingPathConfig_eq_some_iff {pathAccess : List PathAccessConfig}
    {requestPath : String} {entry : PathAccessConfig} :
    findMatchingPathConfig pathAccess requestPath = some entry ↔
      ∃ before after, pathAccess = before ++ entry :: after ∧
        Overrides before entry after requestPath := by
  constructor
  · intro selected
    rcases argmax_filter_eq_some_iff.mp selected with ⟨before, after, split, isMatch, beats⟩
    exact ⟨before, after, split, isMatch,
      fun other member otherMatches => beats.1 other (List.mem_filter.mpr ⟨member, otherMatches⟩),
      fun other member otherMatches => beats.2 other (List.mem_filter.mpr ⟨member, otherMatches⟩)⟩
  · intro placed
    obtain ⟨before, after, rfl, overrides⟩ := placed
    exact (findMatchingPathConfig_insert before after entry requestPath).1 overrides

/-- Rule selection is the longest whole-segment prefix, ties going to the entry
listed first. -/
theorem ruleSelection_by_segments (pathAccess : List PathAccessConfig) (requestPath : String) :
    (∀ configuredPath,
        pathMatches requestPath configuredPath = true ↔ Covers configuredPath requestPath) ∧
      (findMatchingPathConfig pathAccess requestPath = none ↔
        ∀ entry ∈ pathAccess, ¬ Covers entry.path requestPath) ∧
      ∀ entry, findMatchingPathConfig pathAccess requestPath = some entry ↔
        FirstDeepest pathAccess requestPath entry := by
  refine ⟨pathMatches_iff_covers requestPath, ?_, fun entry => ?_⟩
  · simp only [findMatchingPathConfig_eq_none, pathMatches_iff_covers]
  · simp only [findMatchingPathConfig_eq_some_iff, overrides_iff, FirstDeepest]

/-- Doubled and trailing slashes are segments of their own. -/
example : Covers "/api/" "/api//users" ∧ ¬ Covers "/api/" "/api/users" ∧ Covers "" "/" := by
  decide

end DemoBase.Backend
