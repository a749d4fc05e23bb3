import Mathlib.Data.List.Basic

/-!
Owns single-pass substitution: a text is scanned from the left, every match found
on the way is replaced, and the scan goes on behind the match. What is put in is
never scanned.
-/

set_option autoImplicit false

namespace DemoBase.Foundations.Substitution

universe u v

variable {α : Type u} {μ : Type v}

/-- How matches are found and what becomes of them. `matchAt` looks for a match
at the start of a text and `length` is the number of elements it spans. -/
structure Pattern (α : Type u) (μ : Type v) where
  matchAt : List α → Option μ
  length : μ → Nat

/-- Scans the text; `skip` elements still belong to the last match. -/
def Pattern.scan (pattern : Pattern α μ) (replace : μ → List α) : Nat → List α → List α
  | _, [] => []
  | skip + 1, _ :: rest => pattern.scan replace skip rest
  | 0, element :: rest =>
      match pattern.matchAt (element :: rest) with
      | none => element :: pattern.scan replace 0 rest
      | some found => replace found ++ pattern.scan replace (pattern.length found - 1) rest

/-- `pattern.sub(replace, text)`. -/
def Pattern.sub (pattern : Pattern α μ) (replace : μ → List α) (text : List α) : List α :=
  pattern.scan replace 0 text

/-- The matches of the scan, in order. -/
def Pattern.scanned (pattern : Pattern α μ) : Nat → List α → List μ
  | _, [] => []
  | skip + 1, _ :: rest => pattern.scanned skip rest
  | 0, element :: rest =>
      match pattern.matchAt (element :: rest) with
      | none => pattern.scanned 0 rest
      | some found => found :: pattern.scanned (pattern.length found - 1) rest

/-- `pattern.finditer(text)`. -/
def Pattern.found (pattern : Pattern α μ) (text : List α) : List μ :=
  pattern.scanned 0 text

variable {pattern : Pattern α μ} {replace : μ → List α}

theorem Pattern.scan_congr {left right : μ → List α} {skip : Nat} {text : List α}
    (agree : ∀ found ∈ pattern.scanned skip text, left found = right found) :
    pattern.scan left skip text = pattern.scan right skip text := by
  induction text generalizing skip with
  | nil => cases skip <;> rfl
  | cons element rest inductionHypothesis =>
      cases skip with
      | succ skip => exact inductionHypothesis agree
      | zero =>
          rw [Pattern.scan, Pattern.scan]
          rw [Pattern.scanned] at agree
          cases matched : pattern.matchAt (element :: rest) with
          | none =>
              rw [matched] at agree
              exact congrArg (element :: ·) (inductionHypothesis agree)
          | some found =>
              rw [matched] at agree
              show left found ++ _ = right found ++ _
              rw [agree found List.mem_cons_self, inductionHypothesis fun other member =>
                agree other (List.mem_cons_of_mem _ member)]

/-- What a text becomes depends on the replacements of its matches only. -/
theorem Pattern.sub_congr {left right : μ → List α} {text : List α}
    (agree : ∀ found ∈ pattern.found text, left found = right found) :
    pattern.sub left text = pattern.sub right text :=
  Pattern.scan_congr agree

theorem Pattern.scan_append (passed rest : List α) :
    pattern.scan replace passed.length (passed ++ rest) = pattern.scan replace 0 rest := by
  induction passed with
  | nil => rfl
  | cons element passed inductionHypothesis => exact inductionHypothesis

/-- Elements at which no match starts are copied. -/
theorem Pattern.sub_append_of_no_match {passed rest : List α}
    (unmatched : ∀ before element after, passed = before ++ element :: after →
      pattern.matchAt (element :: (after ++ rest)) = none) :
    pattern.sub replace (passed ++ rest) = passed ++ pattern.sub replace rest := by
  induction passed with
  | nil => rfl
  | cons element passed inductionHypothesis =>
      have here : pattern.matchAt (element :: (passed ++ rest)) = none :=
        unmatched [] element passed rfl
      have later := inductionHypothesis fun before next after split =>
        unmatched (element :: before) next after (congrArg (element :: ·) split)
      rw [List.cons_append, Pattern.sub, Pattern.scan, here]
      exact congrArg (element :: ·) later

/-- A match at the start is replaced and the scan goes on behind it. -/
theorem Pattern.sub_of_match {spanned rest : List α} {found : μ}
    (matched : pattern.matchAt (spanned ++ rest) = some found)
    (spans : spanned.length = pattern.length found) (nonempty : spanned ≠ []) :
    pattern.sub replace (spanned ++ rest) = replace found ++ pattern.sub replace rest := by
  cases spanned with
  | nil => exact absurd rfl nonempty
  | cons element spanned =>
      rw [List.cons_append] at matched ⊢
      have behind : pattern.length found - 1 = spanned.length := by
        rw [← spans, List.length_cons, Nat.add_sub_cancel]
      unfold Pattern.sub
      rw [Pattern.scan, matched]
      show replace found ++ pattern.scan replace (pattern.length found - 1) (spanned ++ rest) = _
      rw [behind, Pattern.scan_append]

/-- A text that is one match becomes its replacement, whatever that contains. -/
theorem Pattern.sub_of_full_match {text : List α} {found : μ}
    (matched : pattern.matchAt text = some found) (spans : text.length = pattern.length found)
    (nonempty : text ≠ []) : pattern.sub replace text = replace found := by
  have once : pattern.sub replace (text ++ []) = replace found ++ pattern.sub replace [] :=
    Pattern.sub_of_match (by rwa [List.append_nil]) spans nonempty
  have ended : pattern.sub replace [] = [] := rfl
  rwa [List.append_nil, ended, List.append_nil] at once

end DemoBase.Foundations.Substitution
