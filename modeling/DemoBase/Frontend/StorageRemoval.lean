import DemoBase.Frontend.LocalStorage

/-!
Owns what is left of a key after its last operation was a removal. A removal deletes
the entry at once and resets the signal, whose effect may then store the default.
-/

set_option autoImplicit false

namespace DemoBase.Frontend

open DemoBase.Foundations

variable {Value : Type} [DecidableEq Value] [JsValue Value]

/-- The action is an operation on the key, or one on all keys. -/
def Affects (key : String) : StorageAction Value → Prop
  | .set other _ => other = key
  | .remove other => other = key
  | .setItem other _ => other = key
  | .removeItem other => other = key
  | .clear => True
  | .connect _ _ => False
  | .flush => False

def Removes (key : String) (action : StorageAction Value) : Prop :=
  action = .remove key ∨ action = .clear

structure Removed (service : LocalStorageService Value) (key : String) : Prop where
  entry : service.localStorage key = none
  value : ∃ signal, service.signal key = some signal ∧ signal.value = signal.options.defaultValue

/-- Resetting this signal stores nothing: its default is null or undefined or cannot
be serialized, or the signal holds it already with no effect due. -/
def StaysRemoved (signal : StorageSignal Value) : Prop :=
  JsValue.isNullish signal.options.defaultValue = true ∨
    signal.options.serialize signal.options.defaultValue = none ∨
      signal.pending = false ∧ signal.value = signal.options.defaultValue

/-- The cell of a key right after a removal. -/
def removedCell (signal : StorageSignal Value) : StorageCell Value :=
  ⟨none, some (signal.set signal.options.defaultValue)⟩

namespace StorageCell

variable {cell : StorageCell Value} {signal : StorageSignal Value} {key : String}

theorem step_removes (connected : cell.signal = some signal) {action : StorageAction Value}
    (removes : Removes key action) : cell.step action = removedCell signal := by
  rcases removes with rfl | rfl
  · simp only [step, reset, connected, removedCell]
  · simp only [step, reset, connected, removedCell]

theorem settle_connected (connected : cell.signal = some signal) :
    ∃ settled, cell.settle.signal = some settled := by
  by_cases due : signal.pending = true
  · exact ⟨{ signal with pending := false }, by simp only [settle, connected, if_pos due]⟩
  · exact ⟨signal, by simp only [settle, connected, if_neg due]⟩

/-- Connecting a connected key changes nothing, so only a flush can. -/
theorem step_quiet (connected : cell.signal = some signal) {action : StorageAction Value}
    (quiet : ¬ Affects key action) (concerned : action.concerns key = true) :
    cell.step action = cell ∨ cell.step action = cell.settle := by
  cases action with
  | connect other options =>
      refine Or.inl ?_
      simp only [step, connected]
  | flush => exact Or.inr rfl
  | clear => exact absurd trivial quiet
  | set other value => exact absurd (eq_of_beq concerned) quiet
  | remove other => exact absurd (eq_of_beq concerned) quiet
  | setItem other text => exact absurd (eq_of_beq concerned) quiet
  | removeItem other => exact absurd (eq_of_beq concerned) quiet

/-- Quiet actions leave a removed cell as it is or flushed once. -/
theorem foldl_quiet {actions : List (StorageAction Value)}
    (quiet : ∀ action ∈ actions, ¬ Affects key action ∧ action.concerns key = true)
    (signal : StorageSignal Value)
    (reached : cell = removedCell signal ∨ cell = (removedCell signal).settle) :
    actions.foldl step cell = removedCell signal ∨
      actions.foldl step cell = (removedCell signal).settle := by
  induction actions generalizing cell with
  | nil => exact reached
  | cons action rest inductionHypothesis =>
      have later := fun action member => quiet action (List.mem_cons_of_mem _ member)
      obtain ⟨unaffected, concerned⟩ := quiet action List.mem_cons_self
      rw [List.foldl_cons]
      apply inductionHypothesis later
      rcases reached with rfl | rfl
      · exact step_quiet rfl unaffected concerned
      · obtain ⟨settled, connected⟩ :=
          settle_connected (rfl : (removedCell signal).signal = some _)
        refine Or.inr ?_
        rcases step_quiet connected unaffected concerned with same | again
        · exact same
        · rw [again, settle_settle]

/-- Whether the effect of the reset stores the default again. -/
theorem entry_settle_removed (signal : StorageSignal Value) :
    (removedCell signal).settle.entry = none ↔ StaysRemoved signal := by
  by_cases due : (signal.set signal.options.defaultValue).pending = true
  · have effective : ¬ (signal.pending = false ∧ signal.value = signal.options.defaultValue) := by
      rw [← StorageSignal.pending_set, due]
      simp
    have stored : (removedCell signal).settle.entry =
        setStoredValue none signal.options.defaultValue signal.options := by
      simp [removedCell, settle, due]
    rw [stored, setStoredValue, StaysRemoved]
    by_cases nullish : JsValue.isNullish signal.options.defaultValue = true
    · have same := (JsValue.strictEquals_iff signal.options.defaultValue
        signal.options.defaultValue nullish).mpr rfl
      simp [nullish, same]
    · cases serialized : signal.options.serialize signal.options.defaultValue with
      | none => simp [nullish]
      | some text => simp [nullish, effective]
  · have idle : (signal.set signal.options.defaultValue).pending = false := by simpa using due
    have kept : (removedCell signal).settle.entry = none := by
      simp [removedCell, settle, idle]
    exact iff_of_true kept (Or.inr (Or.inr (signal.pending_set _ |>.mp idle)))

theorem value_settle_removed (signal : StorageSignal Value) :
    ∃ settled, (removedCell signal).settle.signal = some settled ∧
      settled.value = settled.options.defaultValue := by
  by_cases due : (signal.set signal.options.defaultValue).pending = true
  · refine ⟨{ signal.set signal.options.defaultValue with pending := false }, ?_, ?_⟩
    · simp [removedCell, settle, due]
    · simp
  · refine ⟨signal.set signal.options.defaultValue, ?_, ?_⟩
    · simp [removedCell, settle, due]
    · simp

end StorageCell

namespace LocalStorageService

variable (self : LocalStorageService Value)

theorem run_append (first second : List (StorageAction Value)) :
    self.run (first ++ second) = (self.run first).run second :=
  List.foldl_append

/-- The cell of a key whose last operation was a removal, once flushed. -/
theorem cell_run_removed {key : String} {signal : StorageSignal Value}
    (connected : self.signal key = some signal) {removal : StorageAction Value}
    (removes : Removes key removal) {after : List (StorageAction Value)}
    (quiet : ∀ action ∈ after, ¬ Affects key action) :
    (self.run (removal :: after ++ [.flush])).cell key = (removedCell signal).settle := by
  have concerned : removal.concerns key = true := by
    rcases removes with rfl | rfl
    · simp [StorageAction.concerns, StorageAction.key]
    · rfl
  have first : (self.step removal).cell key = removedCell signal := by
    have own := cells.own self removal key concerned
    exact own.trans (StorageCell.step_removes connected removes)
  have unaffecting : ∀ action ∈ after.filter (StorageAction.concerns key),
      ¬ Affects key action ∧ action.concerns key = true := by
    intro action member
    rw [List.mem_filter] at member
    exact ⟨quiet action member.1, member.2⟩
  have left := StorageCell.foldl_quiet unaffecting signal (Or.inl first)
  have seen : ((self.step removal).run after).cell key =
      (after.filter (StorageAction.concerns key)).foldl StorageCell.step
        ((self.step removal).cell key) := cells.run after (self.step removal) key
  have flushed : (self.run (removal :: after ++ [.flush])).cell key =
      (((self.step removal).run after).cell key).settle := by
    rw [run_append]
    exact cell_flush _ key
  rw [flushed, seen]
  rcases left with same | settled
  · rw [same]
  · rw [settled, StorageCell.settle_settle]

/-- After a removal and a flush a connected key is removed exactly when its reset
stores nothing. -/
theorem removed_iff {key : String} {signal : StorageSignal Value}
    (connected : self.signal key = some signal) {removal : StorageAction Value}
    (removes : Removes key removal) {after : List (StorageAction Value)}
    (quiet : ∀ action ∈ after, ¬ Affects key action) :
    Removed (self.run (removal :: after ++ [.flush])) key ↔ StaysRemoved signal := by
  have content := self.cell_run_removed connected removes quiet
  have entry : (self.run (removal :: after ++ [.flush])).localStorage key =
      (removedCell signal).settle.entry := congrArg StorageCell.entry content
  have left : (self.run (removal :: after ++ [.flush])).signal key =
      (removedCell signal).settle.signal := congrArg StorageCell.signal content
  rw [← StorageCell.entry_settle_removed, ← entry]
  constructor
  · intro removed
    exact removed.entry
  · intro gone
    refine ⟨gone, ?_⟩
    rw [left]
    exact StorageCell.value_settle_removed signal

/-- `clear` and a flush leave `localStorage` empty exactly when no reset stores
anything. -/
theorem clear_empty_iff :
    (∀ key, (self.run [.clear, .flush]).localStorage key = none) ↔
      ∀ key signal, self.signal key = some signal → StaysRemoved signal := by
  constructor
  · intro empty key signal connected
    have content : (self.run [.clear, .flush]).cell key = (removedCell signal).settle :=
      self.cell_run_removed connected (Or.inr rfl) (List.forall_mem_nil _)
    rw [← StorageCell.entry_settle_removed, ← content]
    exact empty key
  · intro stays key
    cases connected : self.signal key with
    | some signal =>
        have content : (self.run [.clear, .flush]).cell key = (removedCell signal).settle :=
          self.cell_run_removed connected (Or.inr rfl) (List.forall_mem_nil _)
        have gone := (StorageCell.entry_settle_removed signal).mpr (stays key signal connected)
        rw [← content] at gone
        exact gone
    | none =>
        have content : (self.run [.clear, .flush]).cell key =
            (StorageCell.reset { self.cell key with entry := none }).settle := by
          show (self.clear.flush).cell key = _
          rw [cell_flush, cell_clear]
        have gone : (self.run [.clear, .flush]).localStorage key = _ :=
          congrArg StorageCell.entry content
        rw [gone]
        simp [cell, connected, StorageCell.reset, StorageCell.settle]

end LocalStorageService

open LocalStorageService

/-- Removal removes exactly where resetting a signal stores nothing, whatever came
before it and whatever happens to other keys after it. -/
theorem removal_removes_iff (localStorage : Storage) (before : List (StorageAction Value)) :
    (∀ key signal, ((opened localStorage).run before).signal key = some signal →
        ∀ removal, Removes key removal → ∀ after, (∀ action ∈ after, ¬ Affects key action) →
          (Removed ((opened localStorage).run (before ++ (removal :: after ++ [.flush]))) key ↔
            StaysRemoved signal)) ∧
      ((∀ key, ((opened localStorage).run (before ++ [.clear, .flush])).localStorage key = none) ↔
        ∀ key signal, ((opened localStorage).run before).signal key = some signal →
          StaysRemoved signal) := by
  constructor
  · intro key signal connected removal removes after quiet
    rw [run_append]
    exact removed_iff _ connected removes quiet
  · rw [run_append]
    exact clear_empty_iff _

private def sampleStorage : Storage
  | "auth_token" => some "old"
  | _ => none

/-- The stored token has the default `null`, so logging out removes it. -/
theorem removal_removes_token :
    Removed ((opened sampleStorage).run
      [.connect "auth_token" (stringOptions none), .set "auth_token" (some "new"), .flush,
        .remove "auth_token", .connect "theme" (stringOptions (some "light")), .flush])
      "auth_token" := by
  have removed := (removal_removes_iff sampleStorage
    [.connect "auth_token" (stringOptions none), .set "auth_token" (some "new"), .flush]).1
      "auth_token" ⟨stringOptions none, some "new", false⟩ rfl (.remove "auth_token") (Or.inl rfl)
      [.connect "theme" (stringOptions (some "light"))] (by simp [Affects])
  exact removed.mpr (Or.inl rfl)

private def themeActions (removal : StorageAction (Option String)) :
    List (StorageAction (Option String)) :=
  [.connect "theme" (stringOptions (some "light")), .set "theme" (some "dark"), .flush, removal,
    .flush]

/-- A removed theme comes back as its default. -/
theorem removal_restores_default :
    ((opened fun _ => none).run (themeActions (.remove "theme"))).localStorage "theme" =
        some "light" ∧
      ¬ Removed ((opened fun _ => none).run (themeActions (.remove "theme"))) "theme" ∧
        ((opened fun _ => none).run (themeActions .clear)).localStorage "theme" = some "light" := by
  have stored : ((opened fun _ => none).run (themeActions (.remove "theme"))).localStorage
      "theme" = some "light" := rfl
  refine ⟨stored, ?_, rfl⟩
  intro removed
  rw [removed.entry] at stored
  cases stored

end DemoBase.Frontend
