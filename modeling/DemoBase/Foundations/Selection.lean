import Mathlib.Data.List.MinMax

/-!
Owns how the first maximum of a list reacts to inserting an element and to
permuting the list. `List.argmax` returns the earliest element whose key is
maximal, so ties are decided by position and only by position.
-/

set_option autoImplicit false

namespace DemoBase.Foundations.Selection

universe u v

variable {α : Type u} {β : Type v} [LinearOrder β] {key : α → β}

/-- An element placed between `before` and `after` is the first maximum of the
whole list. -/
def Beats (key : α → β) (before : List α) (element : α) (after : List α) : Prop :=
  (∀ other ∈ before, key other < key element) ∧ ∀ other ∈ after, key other ≤ key element

/-- A maximum at the head of a list is selected. -/
theorem argmax_cons_of_max {element : α} {rest : List α}
    (max : ∀ other ∈ rest, key other ≤ key element) :
    List.argmax key (element :: rest) = some element := by
  rw [List.argmax_cons]
  cases selected : List.argmax key rest with
  | none => rfl
  | some other =>
      have below : key other ≤ key element := max other (List.argmax_mem selected)
      exact if_neg (not_lt.mpr below)

/-- An inserted element that beats its surroundings is the one selected. -/
theorem argmax_insert_of_beats {before after : List α} {element : α}
    (beats : Beats key before element after) :
    List.argmax key (before ++ element :: after) = some element := by
  induction before with
  | nil => exact argmax_cons_of_max beats.2
  | cons head tail inductionHypothesis =>
      have tailBeats : Beats key tail element after :=
        ⟨fun other member => beats.1 other (List.mem_cons_of_mem _ member), beats.2⟩
      rw [List.cons_append, List.argmax_cons, inductionHypothesis tailBeats]
      exact if_pos (beats.1 head List.mem_cons_self)

/-- An inserted element that does not beat its surroundings changes nothing. -/
theorem argmax_insert_of_not_beats {before after : List α} {element : α}
    (loses : ¬ Beats key before element after) :
    List.argmax key (before ++ element :: after) = List.argmax key (before ++ after) := by
  induction before with
  | nil =>
      have someAbove : ∃ other ∈ after, key element < key other := by
        by_contra none
        push Not at none
        exact loses ⟨by simp, none⟩
      obtain ⟨other, member, above⟩ := someAbove
      rw [List.nil_append, List.nil_append, List.argmax_cons]
      cases selected : List.argmax key after with
      | none =>
          rw [List.argmax_eq_none] at selected
          simp [selected] at member
      | some best =>
          have atLeast : key other ≤ key best := List.le_of_mem_argmax member selected
          exact if_pos (lt_of_lt_of_le above atLeast)
  | cons head tail inductionHypothesis =>
      rw [List.cons_append, List.cons_append]
      by_cases tailBeats : Beats key tail element after
      · have headAbove : key element ≤ key head := by
          by_contra below
          refine loses ⟨fun other member => ?_, tailBeats.2⟩
          rcases List.mem_cons.mp member with rfl | older
          · exact not_le.mp below
          · exact tailBeats.1 other older
        have headMax : ∀ other ∈ tail ++ after, key other ≤ key head := by
          intro other member
          rcases List.mem_append.mp member with inTail | inAfter
          · exact (tailBeats.1 other inTail).le.trans headAbove
          · exact (tailBeats.2 other inAfter).trans headAbove
        rw [argmax_cons_of_max headMax, List.argmax_cons, argmax_insert_of_beats tailBeats]
        exact if_neg (not_lt.mpr headAbove)
      · rw [List.argmax_cons, List.argmax_cons, inductionHypothesis tailBeats]

/-- The selected element stands at a position where it beats its surroundings. -/
theorem exists_split_of_argmax {list : List α} {element : α}
    (selected : List.argmax key list = some element) :
    ∃ before after, list = before ++ element :: after ∧ Beats key before element after := by
  induction list with
  | nil => simp at selected
  | cons head tail inductionHypothesis =>
      rw [List.argmax_cons] at selected
      cases best : List.argmax key tail with
      | none =>
          rw [List.argmax_eq_none] at best
          have isHead : head = element := by simpa [best] using selected
          exact ⟨[], [], by rw [isHead, best]; rfl, by simp [Beats]⟩
      | some other =>
          by_cases below : key head < key other
          · have isOther : other = element := by simpa [best, below] using selected
            rcases inductionHypothesis (isOther ▸ best) with ⟨before, after, split, beats⟩
            refine ⟨head :: before, after, by rw [split]; rfl, ?_, beats.2⟩
            intro earlier member
            rcases List.mem_cons.mp member with rfl | older
            · exact isOther ▸ below
            · exact beats.1 earlier older
          · have isHead : head = element := by simpa [best, below] using selected
            refine ⟨[], tail, by rw [isHead]; rfl, by simp, ?_⟩
            intro later member
            have atMost : key later ≤ key other := List.le_of_mem_argmax member best
            exact isHead ▸ atMost.trans (not_lt.mp below)

/-- Selection from a filtered list, read off the whole list: the kept elements
around the selected one lose against it. -/
theorem argmax_filter_eq_some_iff {list : List α} {keep : α → Bool} {element : α} :
    List.argmax key (list.filter keep) = some element ↔
      ∃ before after, list = before ++ element :: after ∧ keep element = true ∧
        Beats key (before.filter keep) element (after.filter keep) := by
  constructor
  · intro selected
    rcases exists_split_of_argmax selected with ⟨kept, rest, split, beats⟩
    rcases List.filter_eq_append_iff.mp split with ⟨front, back, whole, rfl, backKept⟩
    rcases List.filter_eq_cons_iff.mp backKept with ⟨skipped, after, rfl, lost, isKept, rfl⟩
    have frontKept : (front ++ skipped).filter keep = front.filter keep := by
      rw [List.filter_append, List.filter_eq_nil_iff.mpr lost, List.append_nil]
    exact ⟨front ++ skipped, after, by rw [whole, List.append_assoc], isKept,
      frontKept.symm ▸ beats⟩
  · intro placed
    obtain ⟨before, after, rfl, isKept, beats⟩ := placed
    rw [List.filter_append, List.filter_cons, if_pos isKept]
    exact argmax_insert_of_beats beats

/-- `element` is one of the maxima of `list`. -/
def IsMax (key : α → β) (list : List α) (element : α) : Prop :=
  element ∈ list ∧ ∀ other ∈ list, key other ≤ key element

theorem isMax_of_argmax {list : List α} {element : α}
    (selected : List.argmax key list = some element) : IsMax key list element :=
  ⟨List.argmax_mem selected, fun _ member => List.le_of_mem_argmax member selected⟩

end DemoBase.Foundations.Selection
