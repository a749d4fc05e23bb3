import DemoBase.Foundations.Dict

/-!
Owns the values a YAML configuration file holds as `yaml.safe_load` returns them,
and what a path of keys leads to in one. `Key` stands for the hashable YAML
values, two of which are the same key when Python's `==` says so.
-/

set_option autoImplicit false

namespace DemoBase.Backend

open DemoBase.Foundations.Dict

/-- A value that is neither a string nor a container. Floats, dates and the rarer
types are carried as their type's name and their text. -/
inductive Scalar where
  | none
  | bool (value : Bool)
  | int (value : Int)
  | other (typeName text : String) (truthy : Bool)
deriving DecidableEq, Repr

inductive Value (Key : Type) where
  | scalar (value : Scalar)
  | string (text : String)
  | list (items : List (Value Key))
  | dict (entries : List (Key × Value Key))
deriving Repr

/-- The items of a Python `dict`, in insertion order. -/
abbrev Entries (Key : Type) := List (Key × Value Key)

def Scalar.truthy : Scalar → Bool
  | .none => false
  | .bool value => value
  | .int value => value != 0
  | .other _ _ truthy => truthy

def Scalar.typeName : Scalar → String
  | .none => "NoneType"
  | .bool _ => "bool"
  | .int _ => "int"
  | .other typeName _ _ => typeName

namespace Value

variable {Key : Type}

/-- `bool(value)`. -/
def truthy : Value Key → Bool
  | .scalar value => value.truthy
  | .string text => text != ""
  | .list items => !items.isEmpty
  | .dict entries => !entries.isEmpty

/-- `type(value).__name__`. -/
def typeName : Value Key → String
  | .scalar value => value.typeName
  | .string _ => "str"
  | .list _ => "list"
  | .dict _ => "dict"

end Value

section WellFormed

variable {Key : Type} [DecidableEq Key]

mutual

/-- No dictionary inside the value holds a key twice. -/
def Value.wellFormed : Value Key → Bool
  | .scalar _ => true
  | .string _ => true
  | .list items => itemsWellFormed items
  | .dict entries => decide (UniqueKeys entries) && entriesWellFormed entries

def itemsWellFormed : List (Value Key) → Bool
  | [] => true
  | item :: rest => item.wellFormed && itemsWellFormed rest

def entriesWellFormed : Entries Key → Bool
  | [] => true
  | (_, value) :: rest => value.wellFormed && entriesWellFormed rest

end

abbrev Value.WellFormed (value : Value Key) : Prop :=
  value.wellFormed = true

variable {entries : Entries Key}

theorem Value.wellFormed_dict :
    (Value.dict entries).WellFormed ↔ UniqueKeys entries ∧ entriesWellFormed entries = true := by
  rw [Value.WellFormed, Value.wellFormed, Bool.and_eq_true, decide_eq_true_eq]

theorem entriesWellFormed_iff :
    entriesWellFormed entries = true ↔ ∀ entry ∈ entries, entry.2.WellFormed := by
  induction entries with
  | nil => simp [entriesWellFormed]
  | cons head rest inductionHypothesis =>
      rw [entriesWellFormed, Bool.and_eq_true, inductionHypothesis, List.forall_mem_cons]

theorem Value.WellFormed.unique (formed : (Value.dict entries).WellFormed) : UniqueKeys entries :=
  (Value.wellFormed_dict.mp formed).1

theorem Value.WellFormed.value (formed : (Value.dict entries).WellFormed)
    {entry : Key × Value Key} (member : entry ∈ entries) : entry.2.WellFormed :=
  entriesWellFormed_iff.mp (Value.wellFormed_dict.mp formed).2 entry member

end WellFormed

/-- What one document says about a key path. -/
inductive Status (Key : Type) where
  /-- Following the path stops at a mapping that lacks the next key. -/
  | neutral
  /-- The path ends at a value that is not a mapping. -/
  | set (value : Value Key)
  /-- The path ends at a mapping. -/
  | mapping
  /-- A proper prefix of the path ends at a value that is not a mapping. -/
  | cut

/-- What a key path is bound to. -/
inductive Binding (Key : Type) where
  | value (value : Value Key)
  | mapping
  | unbound

def Status.binding {Key : Type} : Status Key → Binding Key
  | .neutral => .unbound
  | .set value => .value value
  | .mapping => .mapping
  | .cut => .unbound

/-- The binding of a path after a document that says this about it, `before` being
the binding without that document. -/
def Status.over {Key : Type} (said : Status Key) (before : Binding Key) : Binding Key :=
  match said with
  | .neutral => before
  | said => said.binding

theorem Status.over_of_ne_neutral {Key : Type} {said : Status Key} (decisive : said ≠ .neutral)
    (before : Binding Key) : said.over before = said.binding := by
  cases said with
  | neutral => exact absurd rfl decisive
  | _ => rfl

namespace Value

variable {Key : Type} [DecidableEq Key]

/-- Follows a key path through nested mappings. -/
def status : Value Key → List Key → Status Key
  | .dict _, [] => .mapping
  | value, [] => .set value
  | .dict entries, key :: path =>
      match entries.lookup key with
      | none => .neutral
      | some value => value.status path
  | _, _ :: _ => .cut

def binding (value : Value Key) (path : List Key) : Binding Key :=
  (value.status path).binding

/-- The value is a mapping. -/
def IsMapping (value : Value Key) : Prop :=
  ∃ entries, value = .dict entries

variable {entries : Entries Key} {key : Key} {path : List Key} {value : Value Key}

theorem status_of_lookup (found : entries.lookup key = some value) :
    (Value.dict entries).status (key :: path) = value.status path := by
  simp only [status, found]

theorem status_of_absent (absent : entries.lookup key = none) :
    (Value.dict entries).status (key :: path) = .neutral := by
  simp only [status, absent]

theorem binding_of_lookup (found : entries.lookup key = some value) :
    (Value.dict entries).binding (key :: path) = value.binding path := by
  rw [binding, status_of_lookup found, binding]

/-- Only a mapping can be neutral. -/
theorem isMapping_of_status_neutral (neutral : value.status path = .neutral) :
    value.IsMapping := by
  cases value with
  | dict entries => exact ⟨entries, rfl⟩
  | _ => cases path <;> simp [status] at neutral

/-- A path that goes on inside a value that is no mapping is cut. -/
theorem status_of_not_isMapping (notMapping : ¬ value.IsMapping) (key : Key) (path : List Key) :
    value.status (key :: path) = .cut := by
  cases value with
  | dict entries => exact absurd ⟨entries, rfl⟩ notMapping
  | _ => rfl

end Value

end DemoBase.Backend
