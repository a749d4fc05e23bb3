import DemoBase.Backend.LoadConfig

/-!
Owns the meaning of layered configuration files: at every key path the last file
that says anything about it decides. One merge is settled by induction on the
path, any number of files by induction on the list of files.
-/

set_option autoImplicit false

namespace DemoBase.Backend

open DemoBase.Foundations.Dict

variable {Key : Type} [DecidableEq Key]

/-! ### One merge -/

theorem mergeValue_dict {current : Option (Value Key)} {base update : Entries Key}
    (isDict : current = some (.dict base)) :
    mergeValue current (.dict update) = .dict (deepMerge base update) := by
  rw [isDict, mergeValue]

/-- Unless both sides are mappings, the update replaces what was there. -/
theorem mergeValue_replaces {current : Option (Value Key)} {value : Value Key}
    (notBoth : ¬ ((∃ present, current = some present ∧ present.IsMapping) ∧ value.IsMapping)) :
    mergeValue current value = value := by
  cases value with
  | dict update =>
      cases current with
      | none => rw [mergeValue]; simp
      | some present =>
          cases present with
          | dict base => exact absurd ⟨⟨_, rfl, base, rfl⟩, update, rfl⟩ notBoth
          | _ => rw [mergeValue]; simp
  | _ => rw [mergeValue]; simp

/-- What a merged dictionary holds at a key: the update's item if it has one, merged
into what was there. -/
theorem lookup_deepMerge (key : Key) (base : Entries Key) {update : Entries Key}
    (unique : UniqueKeys update) :
    (deepMerge base update).lookup key =
      match update.lookup key with
      | none => base.lookup key
      | some value => some (mergeValue (base.lookup key) value) := by
  induction update generalizing base with
  | nil => rw [deepMerge]; rfl
  | cons entry rest inductionHypothesis =>
      obtain ⟨other, value⟩ := entry
      rw [deepMerge, inductionHypothesis _ unique.tail]
      by_cases same : key = other
      · subst same
        rw [unique.lookup_tail, lookup_cons_self, lookup_assign_self]
      · rw [lookup_cons_other same, lookup_assign_other same]

/-- An item that replaces what was there decides the paths behind its key. -/
theorem over_of_replaced {base : Entries Key} {key : Key} {value : Value Key} {path : List Key}
    (notBoth : ¬ ((∃ present, base.lookup key = some present ∧ present.IsMapping) ∧
      value.IsMapping)) :
    value.binding path = (value.status path).over ((Value.dict base).binding (key :: path)) := by
  by_cases neutral : value.status path = .neutral
  · have isMapping : value.IsMapping := Value.isMapping_of_status_neutral neutral
    have unbound : (Value.dict base).binding (key :: path) = .unbound := by
      cases path with
      | nil =>
          obtain ⟨entries, rfl⟩ := isMapping
          cases neutral
      | cons next path =>
          cases found : base.lookup key with
          | none => rw [Value.binding, Value.status_of_absent found, Status.binding]
          | some present =>
              have notMapping : ¬ present.IsMapping := by
                intro presentMapping
                exact notBoth ⟨⟨present, found, presentMapping⟩, isMapping⟩
              rw [Value.binding_of_lookup found, Value.binding,
                Value.status_of_not_isMapping notMapping, Status.binding]
    rw [Value.binding, neutral, unbound]
    rfl
  · rw [Status.over_of_ne_neutral neutral, Value.binding]

/-- After a merge the update decides every path about which it says anything; the
other paths keep their binding. -/
theorem binding_deepMerge {path : List Key} (nonempty : path ≠ []) (base : Entries Key)
    {update : Entries Key} (formed : (Value.dict update).WellFormed) :
    (Value.dict (deepMerge base update)).binding path =
      ((Value.dict update).status path).over ((Value.dict base).binding path) := by
  induction path generalizing base update with
  | nil => exact absurd rfl nonempty
  | cons key path inductionHypothesis =>
      have merged := lookup_deepMerge key base formed.unique
      cases found : update.lookup key with
      | none =>
          rw [found] at merged
          rw [Value.status_of_absent found, Status.over, Value.binding, Value.binding]
          simp only [Value.status, merged]
      | some value =>
          rw [found] at merged
          have formedValue : value.WellFormed := formed.value (mem_of_lookup found)
          rw [Value.binding_of_lookup merged, Value.status_of_lookup found]
          by_cases both : (∃ present, base.lookup key = some present ∧ present.IsMapping) ∧
              value.IsMapping
          · obtain ⟨⟨present, inBase, inner, rfl⟩, innerUpdate, rfl⟩ := both
            rw [mergeValue_dict inBase, Value.binding_of_lookup inBase]
            by_cases ended : path = []
            · rw [ended]
              rfl
            · exact inductionHypothesis ended inner formedValue
          · rw [mergeValue_replaces both]
            exact over_of_replaced both

/-- Assigning a well-formed value keeps a dictionary one. -/
theorem wellFormed_assign {entries : Entries Key} (formed : (Value.dict entries).WellFormed)
    (key : Key) {value : Value Key} (valueFormed : value.WellFormed) :
    (Value.dict (assign key value entries)).WellFormed := by
  refine Value.wellFormed_dict.mpr ⟨formed.unique.assign key value, ?_⟩
  apply entriesWellFormed_iff.mpr
  intro entry member
  rcases mem_assign member with older | same
  · exact formed.value older
  · rw [same]
    exact valueFormed

mutual

theorem mergeValue_wellFormed {current : Option (Value Key)}
    (present : ∀ base, current = some base → base.WellFormed) :
    (value : Value Key) → value.WellFormed → (mergeValue current value).WellFormed
  | .dict update, formed => by
      by_cases both : ∃ base, current = some (.dict base)
      · obtain ⟨base, isDict⟩ := both
        rw [mergeValue_dict isDict]
        exact deepMerge_wellFormed update (Value.wellFormed_dict.mp formed).2
          (present (.dict base) isDict)
      · rw [mergeValue_replaces]
        · exact formed
        · rintro ⟨⟨base, isBase, inner, rfl⟩, -⟩
          exact both ⟨inner, isBase⟩
  | .scalar scalar, formed => by rwa [mergeValue]; simp
  | .string text, formed => by rwa [mergeValue]; simp
  | .list items, formed => by rwa [mergeValue]; simp

/-- Merging dictionaries gives a dictionary. -/
theorem deepMerge_wellFormed :
    (update : Entries Key) → entriesWellFormed update = true → {result : Entries Key} →
      (Value.dict result).WellFormed → (Value.dict (deepMerge result update)).WellFormed
  | [], _, result, formed => by rwa [deepMerge]
  | (key, value) :: rest, updateFormed, result, formed => by
      rw [entriesWellFormed, Bool.and_eq_true] at updateFormed
      rw [deepMerge]
      apply deepMerge_wellFormed rest updateFormed.2
      apply wellFormed_assign formed
      apply mergeValue_wellFormed _ value updateFormed.1
      intro base inResult
      exact formed.value (mem_of_lookup inResult)

end

/-! ### Any number of files -/

/-- Missing files and empty documents aside, the file holds a mapping. -/
def File.HoldsMapping (file : File Key) : Prop :=
  match file with
  | .missing => True
  | .unreadable _ => False
  | .document value _ => value.truthy = true → value.IsMapping

/-- What a file says about a key path: nothing when it is skipped. -/
def File.status (file : File Key) (path : List Key) : Status Key :=
  match file with
  | .document value _ => if value.truthy = true then value.status path else .neutral
  | _ => .neutral

/-- One file of the list: merging goes on with a dictionary in which the file has
decided the paths it says anything about. -/
theorem mergeFiles_cons {file : File Key} (holds : file.HoldsMapping) (configData : Entries Key)
    (rest : List (File Key)) :
    ∃ merged, mergeFiles configData (file :: rest) = mergeFiles merged rest ∧
      ∀ path, path ≠ [] → (Value.dict merged).binding path =
        (file.status path).over ((Value.dict configData).binding path) := by
  cases file with
  | missing => exact ⟨configData, rfl, fun path nonempty => rfl⟩
  | unreadable error => exact absurd holds id
  | document value formed =>
      by_cases skipped : value.truthy = true
      · obtain ⟨update, rfl⟩ := holds skipped
        refine ⟨deepMerge configData update, ?_, ?_⟩
        · rw [mergeFiles, loadYamlFile, if_pos skipped]
          rfl
        · intro path nonempty
          rw [File.status, if_pos skipped]
          exact binding_deepMerge nonempty configData formed
      · refine ⟨configData, ?_, ?_⟩
        · rw [mergeFiles, loadYamlFile, if_neg skipped]
        · intro path nonempty
          rw [File.status, if_neg skipped]
          rfl

/-- The files, first to last, each over what the ones before it left. -/
def layered (files : List (File Key)) (path : List Key) (before : Binding Key) : Binding Key :=
  files.foldl (fun bound file => (file.status path).over bound) before

theorem mergeFiles_binding {files : List (File Key)} (hold : ∀ file ∈ files, file.HoldsMapping)
    (configData : Entries Key) :
    ∃ merged, mergeFiles configData files = .ok merged ∧
      ∀ path, path ≠ [] → (Value.dict merged).binding path =
        layered files path ((Value.dict configData).binding path) := by
  induction files generalizing configData with
  | nil => exact ⟨configData, rfl, fun path nonempty => rfl⟩
  | cons file rest inductionHypothesis =>
      rcases mergeFiles_cons (hold file List.mem_cons_self) configData rest with
        ⟨merged, step, decided⟩
      have restHold : ∀ later ∈ rest, later.HoldsMapping := fun later member =>
        hold later (List.mem_cons_of_mem _ member)
      rcases inductionHypothesis restHold merged with ⟨result, returned, bound⟩
      refine ⟨result, step.trans returned, ?_⟩
      intro path nonempty
      rw [bound path nonempty, decided path nonempty]
      rfl

/-- Files that say nothing about a path leave its binding. -/
theorem layered_of_neutral {files : List (File Key)} {path : List Key}
    (neutral : ∀ file ∈ files, file.status path = .neutral) (before : Binding Key) :
    layered files path before = before := by
  induction files with
  | nil => rfl
  | cons file rest inductionHypothesis =>
      have first := neutral file List.mem_cons_self
      have others := inductionHypothesis fun later member =>
        neutral later (List.mem_cons_of_mem _ member)
      unfold layered at others ⊢
      rw [List.foldl_cons, first]
      exact others

/-- The last file that says anything about a path decides it. -/
theorem layered_of_last {before after : List (File Key)} {last : File Key} {path : List Key}
    (decisive : last.status path ≠ .neutral)
    (neutral : ∀ file ∈ after, file.status path = .neutral) (start : Binding Key) :
    layered (before ++ last :: after) path start = (last.status path).binding := by
  have afterwards := layered_of_neutral neutral (last.status path).binding
  unfold layered at afterwards ⊢
  rw [List.foldl_append, List.foldl_cons, Status.over_of_ne_neutral decisive]
  exact afterwards

/-- Layered configuration is last-writer-wins at every key path. -/
theorem loadAndMergeConfigs_lastWriterWins (files : String → File Key) (configPaths : List String)
    (hold : ∀ configPath ∈ configPaths, (files configPath).HoldsMapping) :
    ∃ merged, loadAndMergeConfigs files configPaths = .ok merged ∧
      ∀ path, path ≠ [] →
        ((∀ configPath ∈ configPaths, (files configPath).status path = .neutral) →
            (Value.dict merged).binding path = .unbound) ∧
          ∀ before last after, configPaths = before ++ last :: after →
            (files last).status path ≠ .neutral →
            (∀ later ∈ after, (files later).status path = .neutral) →
            (Value.dict merged).binding path = ((files last).status path).binding := by
  have filesHold : ∀ file ∈ configPaths.map files, file.HoldsMapping := by
    intro file member
    rcases List.mem_map.mp member with ⟨configPath, listed, rfl⟩
    exact hold configPath listed
  rcases mergeFiles_binding filesHold [] with ⟨merged, returned, bound⟩
  refine ⟨merged, returned, fun path nonempty => ?_⟩
  have nothingYet : (Value.dict ([] : Entries Key)).binding path = .unbound := by
    cases path with
    | nil => exact absurd rfl nonempty
    | cons key path => rfl
  rw [bound path nonempty, nothingYet]
  constructor
  · intro silent
    apply layered_of_neutral
    intro file member
    rcases List.mem_map.mp member with ⟨configPath, listed, rfl⟩
    exact silent configPath listed
  · intro before last after split decisive silent
    rw [split, List.map_append, List.map_cons]
    apply layered_of_last decisive
    intro file member
    rcases List.mem_map.mp member with ⟨later, listed, rfl⟩
    exact silent later listed

private def twoFiles : String → File String
  | "default.yaml" =>
      .document (.dict [("api", .dict [("port", .scalar (.int 8000))])]) (by decide)
  | "override.yaml" => .document (.dict [("api", .string "off")]) (by decide)
  | _ => .missing

/-- A file that binds `api` to a string cuts off the port another file set. -/
theorem loadAndMergeConfigs_scalar_over_dict :
    ∃ merged, loadAndMergeConfigs twoFiles ["default.yaml", "override.yaml"] = .ok merged ∧
      (Value.dict merged).binding ["api", "port"] = .unbound := by
  have hold : ∀ configPath ∈ ["default.yaml", "override.yaml"],
      (twoFiles configPath).HoldsMapping := by
    intro configPath member
    rcases List.mem_cons.mp member with rfl | later
    · exact fun _ => ⟨_, rfl⟩
    · rw [List.mem_singleton.mp later]
      exact fun _ => ⟨_, rfl⟩
  rcases loadAndMergeConfigs_lastWriterWins twoFiles ["default.yaml", "override.yaml"] hold with
    ⟨merged, returned, decided⟩
  have cut : (twoFiles "override.yaml").status ["api", "port"] = .cut := by rfl
  have last := (decided ["api", "port"] (by simp)).2 ["default.yaml"] "override.yaml" [] rfl
    (by rw [cut]; simp) (by simp)
  rw [cut] at last
  exact ⟨merged, returned, last⟩

end DemoBase.Backend
