import Mathlib.Logic.Function.Basic
import DemoBase.Foundations.Cells
import DemoBase.Foundations.Dict

/-!
Owns `LocalStorageService` in a browser: signals connected to keys of
`localStorage`, and the effects that carry a changed signal into its entry at the
next flush. Writes to `localStorage` succeed.
-/

set_option autoImplicit false

namespace DemoBase.Frontend

open DemoBase.Foundations DemoBase.Foundations.Dict

/-- The values a service stores, identified when `Object.is` says so. -/
class JsValue (Value : Type) [DecidableEq Value] where
  strictEquals : Value → Value → Bool
  /-- `value === null || value === undefined`. -/
  isNullish : Value → Bool
  strictEquals_iff : ∀ value other, isNullish value = true →
    (strictEquals value other = true ↔ value = other)

/-- `string | null`. -/
instance jsValueString : JsValue (Option String) where
  strictEquals value other := decide (value = other)
  isNullish value := decide (value = none)
  strictEquals_iff _ _ _ := decide_eq_true_iff

/-- `StorageOptions`. `none` stands for a function that throws. -/
structure StorageOptions (Value : Type) where
  defaultValue : Value
  serialize : Value → Option String
  deserialize : String → Option Value

abbrev Storage := String → Option String

/-- A connected signal; `pending` says that its effect has not run since it was
changed or created. -/
structure StorageSignal (Value : Type) where
  options : StorageOptions Value
  value : Value
  pending : Bool

section Methods

variable {Value : Type} [DecidableEq Value] [JsValue Value]

/-- `_signal.set(value)`. -/
def StorageSignal.set (signal : StorageSignal Value) (value : Value) : StorageSignal Value :=
  if signal.value = value then signal else { signal with value := value, pending := true }

/-- `getStoredValue` for the entry of a key. -/
def getStoredValue (stored : Option String) (options : StorageOptions Value) : Value :=
  match stored with
  | none => options.defaultValue
  | some text => (options.deserialize text).getD options.defaultValue

/-- The entry of a key after `setStoredValue`. -/
def setStoredValue (stored : Option String) (value : Value) (options : StorageOptions Value) :
    Option String :=
  if JsValue.strictEquals value options.defaultValue && JsValue.isNullish value then none
  else
    match options.serialize value with
    | some serialized => some serialized
    | none => stored

structure LocalStorageService (Value : Type) where
  localStorage : Storage
  storageSignals : List (String × StorageSignal Value)

/-- What callers of the service do. `set` and `remove` are the methods of a connected
signal; `flush` runs the effects that are due. -/
inductive StorageAction (Value : Type) where
  | connect (key : String) (options : StorageOptions Value)
  | set (key : String) (value : Value)
  | remove (key : String)
  | setItem (key text : String)
  | removeItem (key : String)
  | clear
  | flush

namespace LocalStorageService

/-- A service that was just created over what `localStorage` holds. -/
def opened (localStorage : Storage) : LocalStorageService Value := ⟨localStorage, []⟩

variable (self : LocalStorageService Value)

def signal (key : String) : Option (StorageSignal Value) := self.storageSignals.lookup key

def keys : List String := self.storageSignals.map Prod.fst

def setItem (key text : String) : LocalStorageService Value :=
  { self with localStorage := Function.update self.localStorage key (some text) }

def removeItem (key : String) : LocalStorageService Value :=
  { self with localStorage := Function.update self.localStorage key none }

def connect (key : String) (options : StorageOptions Value) : LocalStorageService Value :=
  match self.signal key with
  | some _ => self
  | none =>
      let initialValue := getStoredValue (self.localStorage key) options
      { self with storageSignals := assign key ⟨options, initialValue, true⟩ self.storageSignals }

/-- `set` of the signal connected to a key. -/
def set (key : String) (value : Value) : LocalStorageService Value :=
  match self.signal key with
  | none => self
  | some signal =>
      { self with storageSignals := assign key (signal.set value) self.storageSignals }

/-- `remove` of the signal connected to a key. -/
def remove (key : String) : LocalStorageService Value :=
  match self.signal key with
  | none => self
  | some signal => (self.removeItem key).set key signal.options.defaultValue

def clear : LocalStorageService Value :=
  self.keys.foldl remove { self with localStorage := fun _ => none }

/-- The effect of the signal connected to a key. -/
def runEffect (key : String) : LocalStorageService Value :=
  match self.signal key with
  | none => self
  | some signal =>
      if signal.pending then
        { localStorage := Function.update self.localStorage key
            (setStoredValue (self.localStorage key) signal.value signal.options)
          storageSignals := assign key { signal with pending := false } self.storageSignals }
      else self

def flush : LocalStorageService Value := self.keys.foldl runEffect self

def step : StorageAction Value → LocalStorageService Value
  | .connect key options => self.connect key options
  | .set key value => self.set key value
  | .remove key => self.remove key
  | .setItem key text => self.setItem key text
  | .removeItem key => self.removeItem key
  | .clear => self.clear
  | .flush => self.flush

/-- The service after these actions. -/
def run (actions : List (StorageAction Value)) : LocalStorageService Value :=
  actions.foldl step self

end LocalStorageService

end Methods

/-- The options of `connectString`. -/
def stringOptions (defaultValue : Option String) : StorageOptions (Option String) where
  defaultValue := defaultValue
  serialize value := some (value.getD "")
  deserialize text := some (if text = "" then none else some text)

def LocalStorageService.connectString (self : LocalStorageService (Option String)) (key : String)
    (defaultValue : Option String) : LocalStorageService (Option String) :=
  self.connect key (stringOptions defaultValue)

/-! ### One key -/

/-- The entry of a key and the signal connected to it. -/
structure StorageCell (Value : Type) where
  entry : Option String
  signal : Option (StorageSignal Value)

/-- The key an action is about; `clear` and `flush` are about all of them. -/
def StorageAction.key {Value : Type} : StorageAction Value → Option String
  | .connect key _ => some key
  | .set key _ => some key
  | .remove key => some key
  | .setItem key _ => some key
  | .removeItem key => some key
  | .clear => none
  | .flush => none

def StorageAction.concerns {Value : Type} (key : String) (action : StorageAction Value) : Bool :=
  match action.key with
  | none => true
  | some other => other == key

namespace LocalStorageService

section Cell

variable {Value : Type} (self : LocalStorageService Value) {key other : String}

def cell (key : String) : StorageCell Value := ⟨self.localStorage key, self.signal key⟩

theorem cell_connect_own (options : StorageOptions Value) :
    (self.connect key options).cell key =
      match self.signal key with
      | some _ => self.cell key
      | none =>
          { self.cell key with
            signal := some ⟨options, getStoredValue (self.localStorage key) options, true⟩ } := by
  unfold connect
  cases found : self.signal key with
  | none => simp [cell, signal]
  | some signal => rfl

theorem cell_connect_other (distinct : other ≠ key) (options : StorageOptions Value) :
    (self.connect key options).cell other = self.cell other := by
  unfold connect
  cases found : self.signal key with
  | none => simp [cell, signal, lookup_assign_other distinct]
  | some signal => rfl

theorem cell_setItem_other (distinct : other ≠ key) (text : String) :
    (self.setItem key text).cell other = self.cell other := by
  simp [cell, setItem, signal, Function.update_of_ne distinct]

theorem cell_removeItem_own : (self.removeItem key).cell key = ⟨none, self.signal key⟩ := by
  simp [cell, removeItem, signal]

theorem cell_removeItem_other (distinct : other ≠ key) :
    (self.removeItem key).cell other = self.cell other := by
  simp [cell, removeItem, signal, Function.update_of_ne distinct]

theorem mem_keys_of_signal {connected : StorageSignal Value}
    (found : self.signal key = some connected) : key ∈ self.keys :=
  List.mem_map.mpr ⟨_, mem_of_lookup found, rfl⟩

end Cell

end LocalStorageService

section Reset

variable {Value : Type} [DecidableEq Value]

namespace StorageSignal

variable (signal : StorageSignal Value) (value : Value)

@[simp] theorem options_set : (signal.set value).options = signal.options := by
  unfold set
  by_cases same : signal.value = value
  · rw [if_pos same]
  · rw [if_neg same]

@[simp] theorem value_set : (signal.set value).value = value := by
  unfold set
  by_cases same : signal.value = value
  · rw [if_pos same, same]
  · rw [if_neg same]

theorem pending_set :
    (signal.set value).pending = false ↔ signal.pending = false ∧ signal.value = value := by
  unfold set
  by_cases same : signal.value = value
  · simp [same]
  · simp [same]

@[simp] theorem set_set : (signal.set value).set value = signal.set value := by
  rw [set, if_pos (signal.value_set value)]

end StorageSignal

/-- What the `remove` of its signal does to a cell. -/
def StorageCell.reset (self : StorageCell Value) : StorageCell Value :=
  match self.signal with
  | none => self
  | some signal => ⟨none, some (signal.set signal.options.defaultValue)⟩

theorem StorageCell.reset_reset (self : StorageCell Value) : self.reset.reset = self.reset := by
  obtain ⟨entry, signal⟩ := self
  cases signal with
  | none => rfl
  | some signal => simp only [reset, StorageSignal.options_set, StorageSignal.set_set]

namespace LocalStorageService

variable (self : LocalStorageService Value) {key other : String}

theorem cell_set_own (value : Value) :
    (self.set key value).cell key =
      { self.cell key with signal := (self.signal key).map fun signal => signal.set value } := by
  unfold set
  cases found : self.signal key with
  | none => simp [cell, found]
  | some signal => simp [cell, LocalStorageService.signal]

theorem cell_set_other (distinct : other ≠ key) (value : Value) :
    (self.set key value).cell other = self.cell other := by
  unfold set
  cases found : self.signal key with
  | none => rfl
  | some signal => simp [cell, LocalStorageService.signal, lookup_assign_other distinct]

theorem cell_remove_own (key : String) : (self.remove key).cell key = (self.cell key).reset := by
  unfold remove
  cases found : self.signal key with
  | none => simp [cell, StorageCell.reset, found]
  | some signal =>
      have content : self.cell key = ⟨self.localStorage key, some signal⟩ := by rw [cell, found]
      have kept : (self.removeItem key).signal key = some signal := found
      show ((self.removeItem key).set key signal.options.defaultValue).cell key = _
      rw [cell_set_own, cell_removeItem_own, kept, content]
      rfl

theorem cell_remove_other (key other : String) (distinct : other ≠ key) :
    (self.remove key).cell other = self.cell other := by
  unfold remove
  cases found : self.signal key with
  | none => rfl
  | some signal => simp only [cell_set_other _ distinct, cell_removeItem_other _ distinct]

theorem cell_clear (key : String) :
    self.clear.cell key = StorageCell.reset { self.cell key with entry := none } := by
  have swept := cell_sweep (fun service key => cell_remove_own service key)
    (fun service key other => cell_remove_other service key other) StorageCell.reset_reset
    self.keys { self with localStorage := fun _ => none } key
  have wiped : cell { self with localStorage := fun _ => none } key =
      { self.cell key with entry := none } := rfl
  rw [clear, swept, wiped]
  by_cases connected : key ∈ self.keys
  · rw [if_pos connected]
  · rw [if_neg connected]
    cases found : self.signal key with
    | none => simp [StorageCell.reset, cell, found]
    | some signal => exact absurd (self.mem_keys_of_signal found) connected

end LocalStorageService

end Reset

section Step

variable {Value : Type} [DecidableEq Value] [JsValue Value]

namespace StorageCell

/-- What the effect of its signal does to a cell at a flush. -/
def settle (self : StorageCell Value) : StorageCell Value :=
  match self.signal with
  | none => self
  | some signal =>
      if signal.pending then
        ⟨setStoredValue self.entry signal.value signal.options,
          some { signal with pending := false }⟩
      else self

theorem settle_settle (self : StorageCell Value) : self.settle.settle = self.settle := by
  obtain ⟨entry, signal⟩ := self
  cases signal with
  | none => rfl
  | some signal =>
      by_cases due : signal.pending = true
      · simp [settle, due]
      · simp [settle, due]

/-- What an action that concerns the key does to its cell. -/
def step (self : StorageCell Value) : StorageAction Value → StorageCell Value
  | .connect _ options =>
      match self.signal with
      | some _ => self
      | none => { self with signal := some ⟨options, getStoredValue self.entry options, true⟩ }
  | .set _ value => { self with signal := self.signal.map fun signal => signal.set value }
  | .remove _ => self.reset
  | .setItem _ text => { self with entry := some text }
  | .removeItem _ => { self with entry := none }
  | .clear => reset { self with entry := none }
  | .flush => self.settle

end StorageCell

namespace LocalStorageService

variable (self : LocalStorageService Value)

theorem cell_runEffect_own (key : String) :
    (self.runEffect key).cell key = (self.cell key).settle := by
  unfold runEffect
  cases found : self.signal key with
  | none => simp [cell, StorageCell.settle, found]
  | some signal =>
      have content : self.cell key = ⟨self.localStorage key, some signal⟩ := by rw [cell, found]
      rw [content]
      by_cases due : signal.pending = true
      · simp [cell, StorageCell.settle, due, LocalStorageService.signal]
      · simp [content, StorageCell.settle, due]

theorem cell_runEffect_other (key other : String) (distinct : other ≠ key) :
    (self.runEffect key).cell other = self.cell other := by
  unfold runEffect
  cases found : self.signal key with
  | none => rfl
  | some signal =>
      by_cases due : signal.pending = true
      · simp [cell, due, LocalStorageService.signal, lookup_assign_other distinct,
          Function.update_of_ne distinct]
      · simp [due]

theorem cell_flush (key : String) : self.flush.cell key = (self.cell key).settle := by
  have swept := cell_sweep (fun service key => cell_runEffect_own service key)
    (fun service key other => cell_runEffect_other service key other) StorageCell.settle_settle
    self.keys self key
  rw [flush, swept]
  by_cases connected : key ∈ self.keys
  · rw [if_pos connected]
  · rw [if_neg connected]
    cases found : self.signal key with
    | none => simp [StorageCell.settle, cell, found]
    | some signal => exact absurd (self.mem_keys_of_signal found) connected

/-- The service steps its keys one by one. -/
def cells : Cells (step : LocalStorageService Value → StorageAction Value → _) String
    (StorageCell Value) where
  cell := cell
  concerns := StorageAction.concerns
  cellStep := StorageCell.step
  own := by
    intro service action key concerned
    cases action with
    | connect other options =>
        obtain rfl : other = key := eq_of_beq concerned
        exact service.cell_connect_own options
    | set other value =>
        obtain rfl : other = key := eq_of_beq concerned
        exact service.cell_set_own value
    | remove other =>
        obtain rfl : other = key := eq_of_beq concerned
        exact service.cell_remove_own other
    | setItem other text =>
        obtain rfl : other = key := eq_of_beq concerned
        simp [step, StorageCell.step, cell, setItem, signal]
    | removeItem other =>
        obtain rfl : other = key := eq_of_beq concerned
        exact service.cell_removeItem_own
    | clear => exact service.cell_clear key
    | flush => exact service.cell_flush key
  other := by
    intro service action key spared
    cases action with
    | connect other options =>
        exact service.cell_connect_other (ne_of_beq_false spared).symm options
    | set other value => exact service.cell_set_other (ne_of_beq_false spared).symm value
    | remove other => exact service.cell_remove_other other key (ne_of_beq_false spared).symm
    | setItem other text => exact service.cell_setItem_other (ne_of_beq_false spared).symm text
    | removeItem other => exact service.cell_removeItem_other (ne_of_beq_false spared).symm
    | clear => cases spared
    | flush => cases spared

end LocalStorageService

end Step

end DemoBase.Frontend
