import Mathlib.Data.List.Nodup

/-!
Owns insertion-ordered dictionaries as association lists: assignment to a key,
unique keys, and what a lookup sees after an assignment or after every value is
mapped.
-/

set_option autoImplicit false

namespace DemoBase.Foundations.Dict

universe u v w

variable {κ : Type u} {α : Type v} {β : Type w}

/-- No key occurs twice. -/
def UniqueKeys (entries : List (κ × α)) : Prop :=
  (entries.map Prod.fst).Nodup

theorem UniqueKeys.tail {entry : κ × α} {rest : List (κ × α)}
    (unique : UniqueKeys (entry :: rest)) : UniqueKeys rest :=
  (List.nodup_cons.mp unique).2

/-- Every value is replaced, every key stays where it is. -/
def mapValues (function : α → β) (entries : List (κ × α)) : List (κ × β) :=
  entries.map fun entry => (entry.1, function entry.2)

variable [DecidableEq κ]

instance decidableUniqueKeys (entries : List (κ × α)) : Decidable (UniqueKeys entries) :=
  inferInstanceAs (Decidable (List.Nodup _))

/-- `entries[key] = value`: the key keeps its place, a new key goes to the end. -/
def assign (key : κ) (value : α) : List (κ × α) → List (κ × α)
  | [] => [(key, value)]
  | (other, current) :: rest =>
      if other = key then (other, value) :: rest else (other, current) :: assign key value rest

variable {key other : κ} {value : α} {entries rest : List (κ × α)}

@[simp] theorem lookup_cons_self : ((key, value) :: rest).lookup key = some value := by
  simp

theorem lookup_cons_other (distinct : other ≠ key) :
    ((key, value) :: rest).lookup other = rest.lookup other := by
  rw [List.lookup_cons, beq_false_of_ne distinct]

@[simp] theorem lookup_assign_self : (assign key value entries).lookup key = some value := by
  induction entries with
  | nil => simp [assign]
  | cons entry rest inductionHypothesis =>
      obtain ⟨other, current⟩ := entry
      by_cases same : other = key
      · simp [assign, same]
      · rw [assign, if_neg same, lookup_cons_other (Ne.symm same), inductionHypothesis]

theorem lookup_assign_other (distinct : other ≠ key) :
    (assign key value entries).lookup other = entries.lookup other := by
  induction entries with
  | nil => exact lookup_cons_other distinct
  | cons entry rest inductionHypothesis =>
      obtain ⟨present, current⟩ := entry
      by_cases same : present = key
      · rw [assign, if_pos same, same, lookup_cons_other distinct, lookup_cons_other distinct]
      · rw [assign, if_neg same, List.lookup_cons, List.lookup_cons, inductionHypothesis]

theorem mem_of_lookup (found : entries.lookup key = some value) : (key, value) ∈ entries := by
  induction entries with
  | nil => simp at found
  | cons entry rest inductionHypothesis =>
      obtain ⟨other, current⟩ := entry
      by_cases same : key = other
      · subst same
        rw [lookup_cons_self] at found
        rw [Option.some.inj found]
        exact List.mem_cons_self
      · rw [lookup_cons_other same] at found
        exact List.mem_cons_of_mem _ (inductionHypothesis found)

/-- In a dictionary the first key does not occur again. -/
theorem UniqueKeys.lookup_tail (unique : UniqueKeys ((key, value) :: rest)) :
    rest.lookup key = none := by
  cases found : rest.lookup key with
  | none => rfl
  | some again =>
      have member : key ∈ rest.map Prod.fst := List.mem_map.mpr ⟨_, mem_of_lookup found, rfl⟩
      exact absurd member (List.nodup_cons.mp unique).1

theorem mem_assign {entry : κ × α} (member : entry ∈ assign key value entries) :
    entry ∈ entries ∨ entry.2 = value := by
  induction entries with
  | nil =>
      rw [assign, List.mem_singleton] at member
      exact Or.inr (congrArg Prod.snd member)
  | cons head rest inductionHypothesis =>
      obtain ⟨other, current⟩ := head
      by_cases same : other = key
      · rw [assign, if_pos same, List.mem_cons] at member
        rcases member with rfl | older
        · exact Or.inr rfl
        · exact Or.inl (List.mem_cons_of_mem _ older)
      · rw [assign, if_neg same, List.mem_cons] at member
        rcases member with rfl | later
        · exact Or.inl List.mem_cons_self
        · exact (inductionHypothesis later).imp_left (List.mem_cons_of_mem _)

theorem keys_assign :
    (assign key value entries).map Prod.fst =
      if key ∈ entries.map Prod.fst then entries.map Prod.fst
      else entries.map Prod.fst ++ [key] := by
  induction entries with
  | nil => simp [assign]
  | cons entry rest inductionHypothesis =>
      obtain ⟨other, current⟩ := entry
      by_cases same : other = key
      · simp [assign, same]
      · have distinct : key ≠ other := Ne.symm same
        rw [assign, if_neg same, List.map_cons, inductionHypothesis]
        by_cases present : key ∈ rest.map Prod.fst
        · simp only [List.map_cons, List.mem_cons, present, or_true, if_true]
        · simp only [List.map_cons, List.mem_cons, present, distinct, or_self, if_false,
            List.cons_append]

/-- Assignment keeps keys unique. -/
theorem UniqueKeys.assign (unique : UniqueKeys entries) (key : κ) (value : α) :
    UniqueKeys (assign key value entries) := by
  unfold UniqueKeys
  rw [keys_assign]
  by_cases present : key ∈ entries.map Prod.fst
  · rw [if_pos present]
    exact unique
  · rw [if_neg present]
    exact List.nodup_append.mpr ⟨unique, List.nodup_singleton key, by
      intro left leftMember right rightMember same
      rw [List.mem_singleton] at rightMember
      exact present (rightMember ▸ same ▸ leftMember)⟩

theorem lookup_mapValues (function : α → β) (key : κ) (entries : List (κ × α)) :
    (mapValues function entries).lookup key = (entries.lookup key).map function := by
  induction entries with
  | nil => rfl
  | cons entry rest inductionHypothesis =>
      obtain ⟨other, current⟩ := entry
      by_cases same : key = other
      · subst same
        simp [mapValues]
      · have unfolded : mapValues function ((other, current) :: rest) =
            (other, function current) :: mapValues function rest := rfl
        rw [unfolded, lookup_cons_other same, lookup_cons_other same, inductionHypothesis]

/-- Assigning and then mapping every value is mapping first and assigning the mapped
value. -/
theorem mapValues_assign (function : α → β) (key : κ) (value : α) (entries : List (κ × α)) :
    mapValues function (assign key value entries) =
      assign key (function value) (mapValues function entries) := by
  induction entries with
  | nil => rfl
  | cons entry rest inductionHypothesis =>
      obtain ⟨other, current⟩ := entry
      have unfolded : mapValues function ((other, current) :: rest) =
          (other, function current) :: mapValues function rest := rfl
      by_cases same : other = key
      · rw [unfolded, assign, if_pos same, assign, if_pos same]
        rfl
      · rw [unfolded, assign, if_neg same, assign, if_neg same, ← inductionHypothesis]
        rfl

end DemoBase.Foundations.Dict
