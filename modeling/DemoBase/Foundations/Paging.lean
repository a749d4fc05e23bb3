import Mathlib.Data.List.Perm.Basic
import Mathlib.Data.List.Count
import Mathlib.Data.List.Nodup

/-!
Owns paging through a collection by limit and offset, where each page may be cut
from a different order of the elements. Pages of one order partition it; pages of
different orders need not.
-/

set_option autoImplicit false

namespace DemoBase.Foundations.Paging

universe u

variable {α : Type u}

/-- `LIMIT size OFFSET skipped * size`. -/
def slice (size skipped : Nat) (elements : List α) : List α :=
  (elements.drop (skipped * size)).take size

/-- The first `count` pages, page `skipped` being cut from `orders skipped`. -/
def pages (size : Nat) (orders : Nat → List α) (count : Nat) : List α :=
  (List.range count).flatMap fun skipped => slice size skipped (orders skipped)

/-- The number of pages it takes to show `total` elements. -/
def pageCount (total size : Nat) : Nat :=
  (total + size - 1) / size

theorem pages_succ (size : Nat) (orders : Nat → List α) (count : Nat) :
    pages size orders (count + 1) = pages size orders count ++ slice size count (orders count) := by
  unfold pages
  rw [List.range_succ, List.flatMap_append, List.flatMap_singleton]

/-- Pages of one order add up to its beginning. -/
theorem pages_of_same_order (size : Nat) {orders : Nat → List α} {elements : List α} {count : Nat}
    (same : ∀ skipped < count, orders skipped = elements) :
    pages size orders count = elements.take (count * size) := by
  induction count with
  | zero => simp [pages]
  | succ count inductionHypothesis =>
      have shown := inductionHypothesis fun skipped below => same skipped (by omega)
      rw [pages_succ, shown, same count (by omega), Nat.succ_mul, List.take_add]
      rfl

theorem total_le_pageCount_mul {total size : Nat} (positive : 1 ≤ size) :
    total ≤ pageCount total size * size := by
  have remainder : total + size - 1 < (total + size - 1) / size * size + size :=
    Nat.lt_div_mul_add positive
  unfold pageCount
  omega

theorem pageCount_le_one {total size : Nat} (positive : 1 ≤ size) (fits : total ≤ size) :
    pageCount total size ≤ 1 := by
  unfold pageCount
  apply Nat.le_of_lt_succ
  rw [Nat.div_lt_iff_lt_mul positive]
  omega

theorem two_le_pageCount {total size : Nat} (positive : 1 ≤ size) (exceeds : size < total) :
    2 ≤ pageCount total size := by
  unfold pageCount
  rw [Nat.le_div_iff_mul_le positive]
  omega

/-- All pages of one order are the whole collection. -/
theorem pages_whole {size : Nat} (positive : 1 ≤ size) {orders : Nat → List α} {elements : List α}
    (same : ∀ skipped < pageCount elements.length size, orders skipped = elements) :
    pages size orders (pageCount elements.length size) = elements := by
  rw [pages_of_same_order size same, List.take_of_length_le (total_le_pageCount_mul positive)]

/-- The first two pages stand at the front of any longer run of pages. -/
theorem slices_sublist_pages {size count : Nat} (orders : Nat → List α) (several : 2 ≤ count) :
    List.Sublist (slice size 0 (orders 0) ++ slice size 1 (orders 1))
      (pages size orders count) := by
  obtain ⟨more, rfl⟩ := Nat.exists_eq_add_of_le several
  have front : (List.range 2).flatMap (fun skipped => slice size skipped (orders skipped)) =
      slice size 0 (orders 0) ++ slice size 1 (orders 1) := by
    simp [List.range_succ]
  unfold pages
  rw [List.range_add, List.flatMap_append, front]
  exact List.sublist_append_left _ _

/-- `element` is the first to be shown and is moved just past the first page. -/
def moveBack (size : Nat) (element : α) (rest : List α) : List α :=
  rest.take size ++ element :: rest.drop size

theorem moveBack_perm (size : Nat) (element : α) (rest : List α) :
    (moveBack size element rest).Perm (element :: rest) := by
  unfold moveBack
  have moved : (rest.take size ++ element :: rest.drop size).Perm
      (element :: (rest.take size ++ rest.drop size)) := List.perm_middle
  rwa [List.take_append_drop] at moved

/-- Moved back, the first element opens the second page. -/
theorem mem_slice_moveBack {size : Nat} (positive : 1 ≤ size) {element : α} {rest : List α}
    (enough : size ≤ rest.length) : element ∈ slice size 1 (moveBack size element rest) := by
  have skipped : (rest.take size).length = 1 * size := by
    rw [List.length_take, Nat.one_mul, Nat.min_eq_left enough]
  unfold slice moveBack
  rw [List.drop_left' skipped]
  obtain ⟨less, rfl⟩ := Nat.exists_eq_add_of_le' positive
  exact List.mem_cons_self

theorem mem_slice_head {size : Nat} (positive : 1 ≤ size) (element : α) (rest : List α) :
    element ∈ slice size 0 (element :: rest) := by
  obtain ⟨less, rfl⟩ := Nat.exists_eq_add_of_le' positive
  simp [slice]

end DemoBase.Foundations.Paging
