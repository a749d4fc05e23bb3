import Mathlib.Data.List.Basic

/-!
Owns the order between a list and the segments it splits into at a separator.
Empty segments are kept, so a list is determined by its segments, and one
segment list is a prefix of another exactly when the separator follows the whole
shorter list inside the longer one.
-/

set_option autoImplicit false

namespace DemoBase.Foundations.Segments

universe u

variable {α : Type u}

/-- Joining two nonempty runs of segments puts one separator between them. -/
theorem intercalate_append_of_ne_nil (separator : α) {front back : List (List α)}
    (frontSome : front ≠ []) (backSome : back ≠ []) :
    [separator].intercalate (front ++ back) =
      [separator].intercalate front ++ separator :: [separator].intercalate back := by
  induction front with
  | nil => exact absurd rfl frontSome
  | cons segment rest inductionHypothesis =>
      by_cases last : rest = []
      · rw [last, List.singleton_append, List.intercalate_cons_of_ne_nil backSome]
        simp
      · rw [List.cons_append, List.intercalate_cons_of_ne_nil (by simp [last]),
          List.intercalate_cons_of_ne_nil last, inductionHypothesis last]
        simp

variable [DecidableEq α] {separator : α} {left right whole : List α}

/-- A segment list is a prefix of another one exactly when the lists agree or the
shorter one is followed by a separator. -/
theorem splitOn_prefix_iff :
    left.splitOn separator <+: right.splitOn separator ↔
      right = left ∨ left ++ [separator] <+: right := by
  constructor
  · intro nested
    obtain ⟨rest, split⟩ := nested
    have joined := congrArg [separator].intercalate split
    rw [List.intercalate_splitOn] at joined
    by_cases finished : rest = []
    · left
      rw [← joined, finished, List.append_nil, List.intercalate_splitOn]
    · right
      rw [intercalate_append_of_ne_nil separator (List.splitOn_ne_nil separator left) finished,
        List.intercalate_splitOn] at joined
      exact ⟨[separator].intercalate rest, by rw [← joined, List.append_assoc]; rfl⟩
  · intro boundary
    rcases boundary with same | ⟨rest, continued⟩
    · exact same ▸ List.prefix_rfl
    · rw [List.append_assoc, List.singleton_append] at continued
      rw [← continued, List.splitOn_append_cons_self]
      exact List.prefix_append _ _

theorem length_le_of_segments
    (nested : left.splitOn separator <+: right.splitOn separator) :
    left.length ≤ right.length := by
  rcases splitOn_prefix_iff.mp nested with same | continued
  · exact same ▸ Nat.le_refl _
  · have longer := continued.length_le
    rw [List.length_append] at longer
    omega

/-- A list whose segments start another one is shorter unless it is the same. -/
theorem eq_of_segments (nested : left.splitOn separator <+: right.splitOn separator)
    (notLonger : right.length ≤ left.length) : left = right := by
  rcases splitOn_prefix_iff.mp nested with same | continued
  · exact same.symm
  · have longer := continued.length_le
    rw [List.length_append, List.length_singleton] at longer
    omega

/-- Among the lists whose segments start one whole, length orders like the number
of segments. -/
theorem length_le_iff_of_segments
    (leftNested : left.splitOn separator <+: whole.splitOn separator)
    (rightNested : right.splitOn separator <+: whole.splitOn separator) :
    left.length ≤ right.length ↔
      (left.splitOn separator).length ≤ (right.splitOn separator).length := by
  by_cases order : (left.splitOn separator).length ≤ (right.splitOn separator).length
  · have nested : left.splitOn separator <+: right.splitOn separator :=
      List.prefix_of_prefix_length_le leftNested rightNested order
    exact iff_of_true (length_le_of_segments nested) order
  · have nested : right.splitOn separator <+: left.splitOn separator :=
      List.prefix_of_prefix_length_le rightNested leftNested (by omega)
    refine iff_of_false (fun notLonger => order ?_) order
    exact eq_of_segments nested notLonger ▸ Nat.le_refl _

end DemoBase.Foundations.Segments
