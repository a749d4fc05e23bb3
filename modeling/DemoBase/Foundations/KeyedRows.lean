import Mathlib.Data.List.Nodup

/-!
Owns lists of rows with a unique key: what a lookup by key returns, and when
appending a row keeps the key unique. The rows are any type and the key any
function, so one table can carry several unique keys.
-/

set_option autoImplicit false

namespace DemoBase.Foundations.KeyedRows

universe u v

variable {Row : Type u} {Key : Type v} {key : Row → Key}

/-- No two rows share a key. -/
def UniqueOn (key : Row → Key) (rows : List Row) : Prop := (rows.map key).Nodup

theorem UniqueOn.of_cons {head : Row} {tail : List Row} (unique : UniqueOn key (head :: tail)) :
    (∀ row ∈ tail, key row ≠ key head) ∧ UniqueOn key tail := by
  unfold UniqueOn at unique ⊢
  rw [List.map_cons, List.nodup_cons] at unique
  exact ⟨fun row member same => unique.1 (same ▸ List.mem_map_of_mem member), unique.2⟩

theorem uniqueOn_append_singleton {rows : List Row} {row : Row} (unique : UniqueOn key rows)
    (fresh : ∀ other ∈ rows, key other ≠ key row) : UniqueOn key (rows ++ [row]) := by
  unfold UniqueOn at unique ⊢
  rw [List.map_append, List.nodup_append]
  refine ⟨unique, List.nodup_singleton _, ?_⟩
  intro left leftMember right rightMember same
  rcases List.mem_map.mp leftMember with ⟨other, otherMember, rfl⟩
  rw [List.map_singleton, List.mem_singleton] at rightMember
  exact fresh other otherMember (same.trans rightMember)

/-! ### Lookups -/

variable [DecidableEq Key]

/-- The rows with a given key. -/
def select (key : Row → Key) (wanted : Key) (rows : List Row) : List Row :=
  rows.filter fun row => key row = wanted

theorem mem_select {wanted : Key} {rows : List Row} {row : Row} :
    row ∈ select key wanted rows ↔ row ∈ rows ∧ key row = wanted := by
  simp [select]

theorem select_eq_nil {wanted : Key} {rows : List Row} :
    select key wanted rows = [] ↔ ∀ row ∈ rows, key row ≠ wanted := by
  simp [select, List.filter_eq_nil_iff]

/-- A lookup by the key of a row of the table returns exactly that row. -/
theorem UniqueOn.select_key {rows : List Row} (unique : UniqueOn key rows) {row : Row}
    (member : row ∈ rows) : select key (key row) rows = [row] := by
  induction rows with
  | nil => simp at member
  | cons head tail inductionHypothesis =>
      rcases unique.of_cons with ⟨different, tailUnique⟩
      rcases List.mem_cons.mp member with rfl | inTail
      · have rest : select key (key row) tail = [] := select_eq_nil.mpr different
        simpa [select] using rest
      · have headDifferent : key head ≠ key row := (different row inTail).symm
        simpa [select, headDifferent] using inductionHypothesis tailUnique inTail

/-- Two rows of the table with one key are one row. -/
theorem UniqueOn.eq_of_key {rows : List Row} (unique : UniqueOn key rows) {left right : Row}
    (leftMember : left ∈ rows) (rightMember : right ∈ rows) (same : key left = key right) :
    left = right := by
  have selected := unique.select_key leftMember
  have found : right ∈ select key (key left) rows := mem_select.mpr ⟨rightMember, same.symm⟩
  rw [selected, List.mem_singleton] at found
  exact found.symm

end DemoBase.Foundations.KeyedRows
