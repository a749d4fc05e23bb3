import DemoBase.Foundations.Machine
import DemoBase.Frontend.LocalStorage

/-!
Owns what a reload of the page finds of the strings stored before it. Between
flushes a signal and its entry may differ; with no effect due the entry is the
signal's text, or there is none and the signal holds its default.
-/

set_option autoImplicit false

namespace DemoBase.Frontend

open DemoBase.Foundations LocalStorageService

/-- A service of strings and one action on it. -/
abbrev StringStorage := LocalStorageService (Option String)

abbrev StringAction := StorageAction (Option String)

def storageMachine : Machine StringStorage StringAction Unit :=
  ⟨fun service action => (service.step action, ())⟩

/-- Keys are connected with `connectString`, and the direct methods are not used on
a connected key. -/
def StringsOnly : Machine.Environment StringStorage StringAction Unit :=
  fun _ service action =>
    match action with
    | .connect _ options => ∃ defaultValue, options = stringOptions defaultValue
    | .setItem key _ => service.signal key = none
    | .removeItem key => service.signal key = none
    | _ => True

/-- The empty string is read back as `null`. -/
def readBack (value : Option String) : Option String := if value = some "" then none else value

/-- What a freshly created service over the same `localStorage` shows for a key. -/
def reloaded (service : StringStorage) (key : String) (defaultValue : Option String) :
    Option (Option String) :=
  (((opened service.localStorage).connectString key defaultValue).signal key).map
    StorageSignal.value

/-- With no effect due the entry says what the signal holds. -/
structure Synced (cell : StorageCell (Option String)) : Prop where
  strings : ∀ signal, cell.signal = some signal →
    signal.options = stringOptions signal.options.defaultValue
  agrees : ∀ signal, cell.signal = some signal → signal.pending = false →
    cell.entry = none ∧ signal.value = signal.options.defaultValue ∨
      cell.entry = some (signal.value.getD "")

namespace Synced

variable {cell : StorageCell (Option String)}

theorem unconnected (absent : cell.signal = none) : Synced cell := by
  refine ⟨?_, ?_⟩
  · intro signal connected
    rw [absent] at connected
    cases connected
  · intro signal connected
    rw [absent] at connected
    cases connected

/-- A reset agrees whatever the entry was. -/
theorem reset (synced : Synced cell) (entry : Option String) :
    Synced (StorageCell.reset { cell with entry := entry }) := by
  cases connected : cell.signal with
  | none =>
      apply unconnected
      rw [StorageCell.reset]
  | some signal =>
      have content : StorageCell.reset ⟨entry, some signal⟩ =
          ⟨none, some (signal.set signal.options.defaultValue)⟩ := rfl
      have strings := synced.strings signal connected
      rw [content]
      refine ⟨?_, ?_⟩
      · intro after same
        obtain rfl := Option.some.inj same
        rwa [StorageSignal.options_set]
      · intro after same _
        obtain rfl := Option.some.inj same
        exact Or.inl ⟨rfl, by rw [StorageSignal.value_set, StorageSignal.options_set]⟩

/-- An effect stores nothing for a signal that holds its default `null`, and the
text of the signal otherwise. -/
theorem setStoredValue_string (stored value defaultValue : Option String) :
    setStoredValue stored value (stringOptions defaultValue) =
      if value = none ∧ defaultValue = none then none else some (value.getD "") := by
  by_cases empty : value = none ∧ defaultValue = none
  · obtain ⟨rfl, rfl⟩ := empty
    rfl
  · have notEmpty : (JsValue.strictEquals value defaultValue && JsValue.isNullish value) =
        false := by
      cases value with
      | none => simpa [JsValue.strictEquals, JsValue.isNullish, eq_comm] using empty
      | some text => simp [JsValue.isNullish]
    rw [if_neg empty, setStoredValue, stringOptions, notEmpty]
    rfl

theorem settle (synced : Synced cell) : Synced cell.settle := by
  cases connected : cell.signal with
  | none =>
      have same : cell.settle = cell := by rw [StorageCell.settle, connected]
      rwa [same]
  | some signal =>
      by_cases due : signal.pending = true
      · have strings := synced.strings signal connected
        have content : cell.settle =
            ⟨if signal.value = none ∧ signal.options.defaultValue = none then none
              else some (signal.value.getD ""), some { signal with pending := false }⟩ := by
          rw [← setStoredValue_string cell.entry, ← strings]
          simp only [StorageCell.settle, connected, if_pos due]
        rw [content]
        refine ⟨?_, ?_⟩
        · intro after same
          obtain rfl := Option.some.inj same
          exact strings
        · intro after same _
          obtain rfl := Option.some.inj same
          by_cases empty : signal.value = none ∧ signal.options.defaultValue = none
          · exact Or.inl ⟨if_pos empty, empty.1.trans empty.2.symm⟩
          · exact Or.inr (if_neg empty)
      · have same : cell.settle = cell := by
          simp only [StorageCell.settle, connected, if_neg due]
        rwa [same]

theorem set (synced : Synced cell) (value : Option String) :
    Synced { cell with signal := cell.signal.map fun signal => signal.set value } := by
  refine ⟨?_, ?_⟩
  · intro after same
    obtain ⟨signal, connected, rfl⟩ := Option.map_eq_some_iff.mp same
    rw [StorageSignal.options_set]
    exact synced.strings signal connected
  · intro after same idle
    obtain ⟨signal, connected, rfl⟩ := Option.map_eq_some_iff.mp same
    obtain ⟨wasIdle, unchanged⟩ := (signal.pending_set value).mp idle
    rw [StorageSignal.options_set, StorageSignal.value_set, ← unchanged]
    exact synced.agrees signal connected wasIdle

theorem connect (synced : Synced cell) (key : String) (defaultValue : Option String) :
    Synced (cell.step (.connect key (stringOptions defaultValue))) := by
  cases connected : cell.signal with
  | some signal => simpa only [StorageCell.step, connected] using synced
  | none =>
      simp only [StorageCell.step, connected]
      refine ⟨?_, ?_⟩
      · intro after same
        obtain rfl := Option.some.inj same
        rfl
      · intro after same idle
        obtain rfl := Option.some.inj same
        cases idle

end Synced

/-- One action keeps every key synced. -/
theorem synced_next {past : Machine.History StringStorage StringAction Unit}
    {service : StringStorage} {action : StringAction} (allowed : StringsOnly past service action)
    (synced : ∀ key, Synced (service.cell key)) (key : String) :
    Synced ((service.step action).cell key) := by
  cases concerned : action.concerns key with
  | false =>
      have kept : (service.step action).cell key = service.cell key :=
        cells.other service action key concerned
      rw [kept]
      exact synced key
  | true =>
      have stepped : (service.step action).cell key = (service.cell key).step action :=
        cells.own service action key concerned
      rw [stepped]
      cases action with
      | connect other options =>
          obtain ⟨defaultValue, rfl⟩ := allowed
          exact (synced key).connect other defaultValue
      | set other value => exact (synced key).set value
      | remove other => exact (synced key).reset (service.localStorage key)
      | setItem other text =>
          obtain rfl : other = key := eq_of_beq concerned
          exact Synced.unconnected allowed
      | removeItem other =>
          obtain rfl : other = key := eq_of_beq concerned
          exact Synced.unconnected allowed
      | clear => exact (synced key).reset none
      | flush => exact (synced key).settle

theorem synced_of_run {localStorage : Storage}
    {past : Machine.History StringStorage StringAction Unit} {service : StringStorage}
    (run : Machine.Run storageMachine StringsOnly (opened localStorage) past service)
    (key : String) : Synced (service.cell key) := by
  have always : ∀ key, Synced (service.cell key) := by
    apply run.invariant
    · intro key
      exact Synced.unconnected rfl
    · intro earlier before action _ allowed synced
      exact synced_next allowed synced
  exact always key

/-- A flush leaves no effect due. -/
theorem pending_flush {service : StringStorage} {key : String}
    {signal : StorageSignal (Option String)}
    (connected : service.flush.signal key = some signal) : signal.pending = false := by
  have flushed : service.flush.signal key = (service.cell key).settle.signal :=
    congrArg StorageCell.signal (service.cell_flush key)
  rw [flushed] at connected
  unfold StorageCell.settle at connected
  cases before : (service.cell key).signal with
  | none => simp [before] at connected
  | some signalBefore =>
      by_cases due : signalBefore.pending = true
      · simp only [before, if_pos due] at connected
        rw [← Option.some.inj connected]
      · simp only [before, if_neg due] at connected
        rw [← Option.some.inj connected]
        simpa using due

/-- What `connectString` reads from the entry it writes. -/
theorem getStoredValue_string (value defaultValue : Option String) :
    getStoredValue (some (value.getD "")) (stringOptions defaultValue) = readBack value := by
  cases value with
  | none => rfl
  | some text =>
      by_cases empty : text = ""
      · rw [empty]
        rfl
      · simp [getStoredValue, stringOptions, readBack, empty]

theorem reloaded_eq (service : StringStorage) (key : String) (defaultValue : Option String) :
    reloaded service key defaultValue =
      some (getStoredValue (service.localStorage key) (stringOptions defaultValue)) := by
  simp [reloaded, connectString, connect, opened, signal, DemoBase.Foundations.Dict.assign]

/-- Stored strings survive a reload: with its entry stored a key comes back as its
signal had it, the empty string as `null`; without an entry it comes back as its
default, which is what the signal had. No key's entry depends on what is done to
other keys, `clear` apart. -/
theorem storedStrings_survive_reload :
    (∀ (localStorage : Storage) (past : Machine.History StringStorage StringAction Unit)
        (service : StringStorage),
        Machine.Run storageMachine StringsOnly (opened localStorage) past service →
          ∀ key signal, service.flush.signal key = some signal →
            reloaded service.flush key signal.options.defaultValue =
              some (if service.flush.localStorage key = none then signal.value
                else readBack signal.value)) ∧
      ∀ (localStorage : Storage) (actions : List StringAction) (key : String),
        ((opened localStorage).run (actions.filter (StorageAction.concerns key))).localStorage key =
          ((opened localStorage).run actions).localStorage key := by
  constructor
  · intro localStorage past service run key signal connected
    have synced : Synced (service.flush.cell key) :=
      synced_of_run (run.step (.flush : StringAction) trivial) key
    have agrees := synced.agrees signal connected (pending_flush connected)
    rw [reloaded_eq]
    rcases agrees with ⟨absent, isDefault⟩ | stored
    · have noEntry : service.flush.localStorage key = none := absent
      rw [if_pos noEntry, noEntry, isDefault]
      rfl
    · have entry : service.flush.localStorage key = some (signal.value.getD "") := stored
      rw [entry, getStoredValue_string]
      simp
  · intro localStorage actions key
    exact congrArg StorageCell.entry (cells.run_erase actions (opened localStorage) key)

/-- A token is removed and set to the empty string without a flush in between. -/
private def tokenActions : List StringAction :=
  [.connect "auth_token" (stringOptions none), .set "auth_token" (some "token"), .flush,
    .remove "auth_token", .set "auth_token" (some "")]

private def tokenService : StringStorage :=
  (storageMachine.execute [] (opened fun _ => none) tokenActions).2

theorem storedStrings_survive_reload_token :
    reloaded tokenService.flush "auth_token" none = some none := by
  have allowed : storageMachine.Allows StringsOnly [] (opened fun _ => none) tokenActions :=
    ⟨⟨none, rfl⟩, trivial, trivial, trivial, trivial, trivial⟩
  have run := storageMachine.run_execute .start allowed
  exact storedStrings_survive_reload.1 _ _ _ run "auth_token"
    ⟨stringOptions none, some "", false⟩ rfl

private def emptyActions : List StringAction :=
  [.connect "note" (stringOptions (some "")), .flush, .remove "note"]

private def emptyService : StringStorage :=
  (storageMachine.execute [] (opened fun _ => none) emptyActions).2

/-- The removal leaves no entry and no effect due, and the default is the empty
string: a reload shows it as it is. -/
theorem reload_keeps_empty_default :
    (∃ past, Machine.Run storageMachine StringsOnly (opened fun _ => none) past emptyService) ∧
      (emptyService.flush.signal "note").map StorageSignal.value = some (some "") ∧
        reloaded emptyService.flush "note" (some "") ≠ some (readBack (some "")) := by
  have allowed : storageMachine.Allows StringsOnly [] (opened fun _ => none) emptyActions :=
    ⟨⟨some "", rfl⟩, trivial, trivial, trivial⟩
  refine ⟨⟨_, storageMachine.run_execute .start allowed⟩, rfl, ?_⟩
  have shown : reloaded emptyService.flush "note" (some "") = some (some "") := rfl
  rw [shown]
  decide

end DemoBase.Frontend
