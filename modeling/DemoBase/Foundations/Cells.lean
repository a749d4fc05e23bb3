import Mathlib.Data.List.Basic

/-!
Owns states that fall into independent cells, one a key. Every input concerns some
of the cells and steps each of them by itself, so a run seen through one cell is the
run of the inputs that concern it.
-/

set_option autoImplicit false

namespace DemoBase.Foundations

universe u v w x

/-- How a step function acts cell by cell. -/
structure Cells {State : Type u} {Input : Type v} (step : State → Input → State) (Key : Type w)
    (Cell : Type x) where
  cell : State → Key → Cell
  concerns : Key → Input → Bool
  cellStep : Cell → Input → Cell
  own : ∀ state input key, concerns key input = true →
    cell (step state input) key = cellStep (cell state key) input
  other : ∀ state input key, concerns key input = false →
    cell (step state input) key = cell state key

namespace Cells

variable {State : Type u} {Input : Type v} {Key : Type w} {Cell : Type x}
  {step : State → Input → State} (cells : Cells step Key Cell)

/-- A run seen through one cell. -/
theorem run (inputs : List Input) (state : State) (key : Key) :
    cells.cell (inputs.foldl step state) key =
      (inputs.filter (cells.concerns key)).foldl cells.cellStep (cells.cell state key) := by
  induction inputs generalizing state with
  | nil => rfl
  | cons input rest inductionHypothesis =>
      rw [List.foldl_cons, inductionHypothesis]
      cases concerned : cells.concerns key input with
      | true =>
          rw [List.filter_cons_of_pos concerned, List.foldl_cons, cells.own _ _ _ concerned]
      | false =>
          have passed : ¬ cells.concerns key input = true := by simp [concerned]
          rw [List.filter_cons_of_neg passed, cells.other _ _ _ concerned]

/-- The inputs that do not concern a cell can be erased from a run. -/
theorem run_erase (inputs : List Input) (state : State) (key : Key) :
    cells.cell ((inputs.filter (cells.concerns key)).foldl step state) key =
      cells.cell (inputs.foldl step state) key := by
  rw [cells.run, cells.run, List.filter_filter]
  simp only [Bool.and_self]

end Cells

section Sweep

variable {State : Type u} {Key : Type w} {Cell : Type x} [DecidableEq Key]

/-- A loop over keys that acts on each key's own cell leaves a cell as one turn of
its own does, when a second turn would change nothing. -/
theorem cell_sweep {cell : State → Key → Cell} {turn : State → Key → State}
    {cellTurn : Cell → Cell}
    (own : ∀ state key, cell (turn state key) key = cellTurn (cell state key))
    (other : ∀ state key left, left ≠ key → cell (turn state key) left = cell state left)
    (once : ∀ content, cellTurn (cellTurn content) = cellTurn content)
    (keys : List Key) (state : State) (key : Key) :
    cell (keys.foldl turn state) key =
      if key ∈ keys then cellTurn (cell state key) else cell state key := by
  induction keys generalizing state with
  | nil => rfl
  | cons head rest inductionHypothesis =>
      rw [List.foldl_cons, inductionHypothesis]
      by_cases same : key = head
      · subst same
        by_cases again : key ∈ rest
        · rw [if_pos again, if_pos List.mem_cons_self, own, once]
        · rw [if_neg again, if_pos List.mem_cons_self, own]
      · simp only [List.mem_cons, same, false_or, other _ _ _ same]

end Sweep

end DemoBase.Foundations
