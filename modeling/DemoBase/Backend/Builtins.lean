import Mathlib.Data.List.Basic

/-!
Owns the built-in Python values and string methods the backend relies on:
JSON values as `json.loads` returns them, `str.split()` without arguments,
`str.lower()` on ASCII letters, and `str.partition`. Instants are microseconds
since the Unix epoch, the resolution of `datetime`.
-/

set_option autoImplicit false

namespace DemoBase.Backend

/-- A point in time, in microseconds since the epoch. -/
abbrev Instant := Int

def microsecondsPerSecond : Int := 1000000

def microsecondsPerMinute : Int := 60 * microsecondsPerSecond

/-- A JSON value. -/
inductive Json where
  | null
  | bool (value : Bool)
  | number (value : Rat)
  | string (value : String)
  | array (items : List Json)
  | object (members : List (String × Json))
deriving Repr

mutual

/-- Values are compared member by member, in their order. -/
def Json.decEq : (left right : Json) → Decidable (left = right)
  | .null, right => match right with
    | .null => isTrue rfl
    | .bool _ | .number _ | .string _ | .array _ | .object _ => isFalse nofun
  | .bool left, right => match right with
    | .bool right => decidable_of_iff (left = right) (by simp)
    | .null | .number _ | .string _ | .array _ | .object _ => isFalse nofun
  | .number left, right => match right with
    | .number right => decidable_of_iff (left = right) (by simp)
    | .null | .bool _ | .string _ | .array _ | .object _ => isFalse nofun
  | .string left, right => match right with
    | .string right => decidable_of_iff (left = right) (by simp)
    | .null | .bool _ | .number _ | .array _ | .object _ => isFalse nofun
  | .array left, right => match right with
    | .array right =>
        have _ := decEqItems left right
        decidable_of_iff (left = right) (by simp)
    | .null | .bool _ | .number _ | .string _ | .object _ => isFalse nofun
  | .object left, right => match right with
    | .object right =>
        have _ := decEqMembers left right
        decidable_of_iff (left = right) (by simp)
    | .null | .bool _ | .number _ | .string _ | .array _ => isFalse nofun

def decEqItems : (left right : List Json) → Decidable (left = right)
  | [], right => match right with
    | [] => isTrue rfl
    | _ :: _ => isFalse nofun
  | one :: left, right => match right with
    | [] => isFalse nofun
    | other :: right =>
        have _ := one.decEq other
        have _ := decEqItems left right
        decidable_of_iff (one = other ∧ left = right) (by simp)

def decEqMembers : (left right : List (String × Json)) → Decidable (left = right)
  | [], right => match right with
    | [] => isTrue rfl
    | _ :: _ => isFalse nofun
  | (name, one) :: left, right => match right with
    | [] => isFalse nofun
    | (otherName, other) :: right =>
        have _ := one.decEq other
        have _ := decEqMembers left right
        decidable_of_iff (name = otherName ∧ one = other ∧ left = right) (by simp [and_assoc])

end

instance : DecidableEq Json := Json.decEq

/-- The characters `str.split()` splits on: those `str.isspace()` accepts. -/
def isSpace (character : Char) : Bool :=
  let code := character.toNat
  (0x09 ≤ code && code ≤ 0x0D) || (0x1C ≤ code && code ≤ 0x20) || code == 0x85 || code == 0xA0 ||
    code == 0x1680 || (0x2000 ≤ code && code ≤ 0x200A) || code == 0x2028 || code == 0x2029 ||
    code == 0x202F || code == 0x205F || code == 0x3000

/-- `text.split()`: the maximal runs of characters that are not whitespace. -/
def split (text : String) : List String :=
  ((text.toList.splitOnP isSpace).filter (· ≠ [])).map String.ofList

/-- `text.lower()` on ASCII letters; any other character stays as it is. None of these
lowers to a letter of a word the backend compares the result with, so it is only in the
text of an error that the result can differ. -/
def lower (text : String) : String := String.ofList (text.toList.map Char.toLower)

/-- `text.strip()`. -/
def strip (text : String) : String :=
  String.ofList ((text.toList.dropWhile isSpace).reverse.dropWhile isSpace).reverse

/-- The part of `text` before the first space: `text.partition(" ")[0]`. -/
def beforeSpace (text : String) : String := String.ofList (text.toList.takeWhile (· ≠ ' '))

theorem split_pair {scheme parameter : String}
    (schemeSolid : ∀ character ∈ scheme.toList, isSpace character = false)
    (schemeNonempty : scheme.toList ≠ [])
    (parameterSolid : ∀ character ∈ parameter.toList, isSpace character = false)
    (parameterNonempty : parameter.toList ≠ []) :
    split (scheme ++ " " ++ parameter) = [scheme, parameter] := by
  have spread : (scheme ++ " " ++ parameter).toList =
      scheme.toList ++ ' ' :: parameter.toList := by
    simp
  have pieces : (scheme.toList ++ ' ' :: parameter.toList).splitOnP isSpace =
      [scheme.toList, parameter.toList] := by
    rw [List.splitOnP_append_cons_of_forall_mem schemeSolid ' ' (by decide),
      List.splitOnP_eq_singleton parameterSolid]
  unfold split
  rw [spread, pieces]
  simp [schemeNonempty, parameterNonempty]

end DemoBase.Backend
