import DemoBase.Backend.LayeredConfig

/-!
Owns the algebra of configuration layers: when `deep_merge` may be regrouped, so
that two files can be replaced by one holding their merge, and when the order of
the files is irrelevant. Neither holds in general. A value that is no mapping cuts
off what earlier files set below its path, and the cut is lost when a mapping is
merged over that value first.
-/

set_option autoImplicit false

namespace DemoBase.Backend

open DemoBase.Foundations.Dict

variable {Key : Type} [DecidableEq Key]

/-! ### The status of a merge -/

/-- `update` says nothing about the path, but puts a mapping where `base` has a value
that is no mapping on the way to it. -/
def Shadowed (base update : Entries Key) (path : List Key) : Prop :=
  (Value.dict update).status path = .neutral ∧
    ∃ stem rest, path = stem ++ rest ∧
      (∃ value, (Value.dict base).status stem = .set value) ∧
      (Value.dict update).status stem = .mapping

section Status

variable {base update inner innerUpdate : Entries Key} {key : Key} {path : List Key}

/-- Below a key both sides map to mappings, shadowing is that of the mappings. -/
theorem shadowed_cons (inBase : base.lookup key = some (.dict inner))
    (inUpdate : update.lookup key = some (.dict innerUpdate)) :
    Shadowed base update (key :: path) ↔ Shadowed inner innerUpdate path := by
  constructor
  · rintro ⟨silent, stem, rest, split, ⟨value, cutting⟩, mapped⟩
    rw [Value.status_of_lookup inUpdate] at silent
    cases stem with
    | nil => cases cutting
    | cons first stem =>
        obtain ⟨rfl, rfl⟩ := List.cons.inj split
        rw [Value.status_of_lookup inBase] at cutting
        rw [Value.status_of_lookup inUpdate] at mapped
        exact ⟨silent, stem, rest, rfl, ⟨value, cutting⟩, mapped⟩
  · rintro ⟨silent, stem, rest, rfl, ⟨value, cutting⟩, mapped⟩
    refine ⟨?_, key :: stem, rest, rfl, ⟨value, ?_⟩, ?_⟩
    · rw [Value.status_of_lookup inUpdate, silent]
    · rw [Value.status_of_lookup inBase, cutting]
    · rw [Value.status_of_lookup inUpdate, mapped]

/-- A key the update lacks shadows nothing. -/
theorem not_shadowed_of_absent (absent : update.lookup key = none) :
    ¬ Shadowed base update (key :: path) := by
  rintro ⟨-, stem, rest, split, ⟨value, cutting⟩, mapped⟩
  cases stem with
  | nil => cases cutting
  | cons first stem =>
      obtain ⟨rfl, rfl⟩ := List.cons.inj split
      rw [Value.status_of_absent absent] at mapped
      cases mapped

/-- A silent update over a value that is no mapping shadows it. -/
theorem shadowed_of_replaced {present value : Value Key}
    (inBase : base.lookup key = some present) (notMapping : ¬ present.IsMapping)
    (inUpdate : update.lookup key = some value) (silent : value.status path = .neutral) :
    Shadowed base update (key :: path) := by
  obtain ⟨entries, rfl⟩ := Value.isMapping_of_status_neutral silent
  refine ⟨?_, [key], path, rfl, ⟨present, ?_⟩, ?_⟩
  · rw [Value.status_of_lookup inUpdate, silent]
  · rw [Value.status_of_lookup inBase]
    cases present with
    | dict inner => exact absurd ⟨inner, rfl⟩ notMapping
    | _ => rfl
  · rw [Value.status_of_lookup inUpdate]
    rfl

/-- What a merge says about a path: what the base says where the update is silent and
shadows nothing, and what the update says everywhere else. -/
theorem status_deepMerge (nonempty : path ≠ []) (formed : (Value.dict update).WellFormed) :
    ((Value.dict update).status path = .neutral → ¬ Shadowed base update path →
        (Value.dict (deepMerge base update)).status path = (Value.dict base).status path) ∧
      ((Value.dict update).status path ≠ .neutral ∨ Shadowed base update path →
        (Value.dict (deepMerge base update)).status path = (Value.dict update).status path) := by
  induction path generalizing base update with
  | nil => exact absurd rfl nonempty
  | cons key path inductionHypothesis =>
      have merged := lookup_deepMerge key base formed.unique
      cases found : update.lookup key with
      | none =>
          rw [found] at merged
          rw [Value.status_of_absent found]
          constructor
          · intro _ _
            simp only [Value.status, merged]
          · rintro (said | shadowed)
            · exact absurd rfl said
            · exact absurd shadowed (not_shadowed_of_absent found)
      | some value =>
          rw [found] at merged
          have formedValue : value.WellFormed := formed.value (mem_of_lookup found)
          rw [Value.status_of_lookup merged, Value.status_of_lookup found]
          by_cases both : (∃ present, base.lookup key = some present ∧ present.IsMapping) ∧
              value.IsMapping
          · obtain ⟨⟨present, inBase, inner, rfl⟩, innerUpdate, rfl⟩ := both
            rw [mergeValue_dict inBase, Value.status_of_lookup inBase, shadowed_cons inBase found]
            by_cases ended : path = []
            · rw [ended]
              exact ⟨fun _ _ => rfl, fun _ => rfl⟩
            · exact inductionHypothesis ended formedValue
          · rw [mergeValue_replaces both]
            refine ⟨fun silent unshadowed => ?_, fun _ => rfl⟩
            -- a silent value is a mapping, so the base has none at this key
            have isMapping := Value.isMapping_of_status_neutral silent
            cases inBase : base.lookup key with
            | none => rw [Value.status_of_absent inBase, silent]
            | some present =>
                have notMapping : ¬ present.IsMapping := fun presentMapping =>
                  both ⟨⟨present, inBase, presentMapping⟩, isMapping⟩
                exact absurd (shadowed_of_replaced inBase notMapping found silent) unshadowed

/-- A path that goes on behind a value that is no mapping is cut. -/
theorem status_append_of_set {value leaf : Value Key} {stem : List Key}
    (ended : value.status stem = .set leaf) (key : Key) (rest : List Key) :
    value.status (stem ++ key :: rest) = .cut := by
  induction stem generalizing value with
  | nil =>
      cases value with
      | dict entries => cases ended
      | _ => rfl
  | cons first stem inductionHypothesis =>
      cases value with
      | dict entries =>
          cases found : entries.lookup first with
          | none =>
              rw [Value.status_of_absent found] at ended
              cases ended
          | some present =>
              rw [Value.status_of_lookup found] at ended
              rw [List.cons_append, Value.status_of_lookup found]
              exact inductionHypothesis ended
      | _ => cases ended

/-- The base cuts off every path the update shadows. -/
theorem Shadowed.cut (shadowed : Shadowed base update path) :
    (Value.dict base).status path = .cut := by
  obtain ⟨silent, stem, rest, rfl, ⟨value, cutting⟩, mapped⟩ := shadowed
  cases rest with
  | nil =>
      rw [List.append_nil, mapped] at silent
      cases silent
  | cons key rest => exact status_append_of_set cutting key rest

end Status

/-! ### Regrouping -/

section Regroup

variable {first middle last : Entries Key} {path : List Key}

theorem Shadowed.ne_nil (shadowed : Shadowed middle last path) : path ≠ [] := by
  rintro rfl
  cases shadowed.1

/-- Merging the later two layers first changes a path exactly when the last one
shadows the middle one there: then what was bound before shows through. -/
theorem over_regrouped (nonempty : path ≠ []) (formed : (Value.dict last).WellFormed)
    (before : Binding Key) :
    (Shadowed middle last path →
        ((Value.dict (deepMerge middle last)).status path).over before = before ∧
        ((Value.dict last).status path).over (((Value.dict middle).status path).over before) =
          .unbound) ∧
      (¬ Shadowed middle last path →
        ((Value.dict (deepMerge middle last)).status path).over before =
          ((Value.dict last).status path).over
            (((Value.dict middle).status path).over before)) := by
  have merged := @status_deepMerge Key _ middle last path nonempty formed
  constructor
  · intro shadowed
    rw [merged.2 (Or.inr shadowed), shadowed.1, shadowed.cut]
    exact ⟨rfl, rfl⟩
  · intro unshadowed
    by_cases silent : (Value.dict last).status path = .neutral
    · rw [merged.1 silent unshadowed, silent]
      rfl
    · rw [merged.2 (Or.inl silent), Status.over_of_ne_neutral silent,
        Status.over_of_ne_neutral silent]

end Regroup

/-! ### Files -/

section Files

variable {files : List (File Key)} {path : List Key}

/-- A file of one dictionary says what the dictionary says, an empty one included. -/
theorem status_document {entries : Entries Key} {formed : (Value.dict entries).WellFormed}
    (nonempty : path ≠ []) :
    (File.document (.dict entries) formed).status path = (Value.dict entries).status path := by
  rw [File.status]
  cases entries with
  | nil =>
      cases path with
      | nil => exact absurd rfl nonempty
      | cons key path => rfl
  | cons entry rest => rfl

theorem layered_cons (file : File Key) (before : Binding Key) :
    layered (file :: files) path before = layered files path ((file.status path).over before) :=
  rfl

theorem layered_append (later : List (File Key)) (before : Binding Key) :
    layered (files ++ later) path before = layered later path (layered files path before) :=
  List.foldl_append

/-- Files one of which decides a path forget what was bound before. -/
theorem layered_of_decided {file : File Key} (listed : file ∈ files)
    (decisive : file.status path ≠ .neutral) (left right : Binding Key) :
    layered files path left = layered files path right := by
  induction files generalizing left right with
  | nil => cases listed
  | cons head rest inductionHypothesis =>
      rw [layered_cons, layered_cons]
      rcases List.mem_cons.mp listed with rfl | later
      · rw [Status.over_of_ne_neutral decisive, Status.over_of_ne_neutral decisive]
      · exact inductionHypothesis later _ _

/-- Whenever the files that say anything about a path agree on it, they bind it so. -/
theorem layered_of_agreeing {bound : Binding Key}
    (decided : ∃ file ∈ files, file.status path ≠ .neutral)
    (agree : ∀ file ∈ files, file.status path ≠ .neutral → (file.status path).binding = bound)
    (before : Binding Key) : layered files path before = bound := by
  induction files generalizing before with
  | nil =>
      obtain ⟨file, listed, -⟩ := decided
      cases listed
  | cons head rest inductionHypothesis =>
      by_cases later : ∃ file ∈ rest, file.status path ≠ .neutral
      · rw [layered_cons]
        exact inductionHypothesis later
          (fun file listed => agree file (List.mem_cons_of_mem _ listed)) _
      · push Not at later
        obtain ⟨file, listed, decisive⟩ := decided
        rcases List.mem_cons.mp listed with rfl | inRest
        · rw [layered_cons, layered_of_neutral later, Status.over_of_ne_neutral decisive]
          exact agree file List.mem_cons_self decisive
        · exact absurd (later file inRest) decisive

end Files

section Loading

variable (files : String → File Key)

/-- Loading files that hold mappings binds every path to what the layers bind. -/
theorem loadAndMergeConfigs_layered {configPaths : List String}
    (hold : ∀ configPath ∈ configPaths, (files configPath).HoldsMapping) :
    ∃ merged, loadAndMergeConfigs files configPaths = .ok merged ∧
      ∀ path, path ≠ [] →
        (Value.dict merged).binding path = layered (configPaths.map files) path .unbound := by
  have filesHold : ∀ file ∈ configPaths.map files, file.HoldsMapping := by
    intro file member
    obtain ⟨configPath, listed, rfl⟩ := List.mem_map.mp member
    exact hold configPath listed
  obtain ⟨merged, returned, bound⟩ := mergeFiles_binding filesHold []
  refine ⟨merged, returned, fun path nonempty => ?_⟩
  rw [bound path nonempty]
  cases path with
  | nil => exact absurd rfl nonempty
  | cons key path => rfl

/-- Two neighbouring files can be replaced by one file holding their merge exactly
when nothing shows through: wherever the second puts a mapping where the first has a
value that is none, and no later file decides, the files before bind nothing. -/
theorem loadAndMergeConfigs_regroup_iff {before after : List String}
    {first second combined : String} {middle last : Entries Key}
    {formedMiddle : (Value.dict middle).WellFormed} {formedLast : (Value.dict last).WellFormed}
    (beforeHold : ∀ configPath ∈ before, (files configPath).HoldsMapping)
    (afterHold : ∀ configPath ∈ after, (files configPath).HoldsMapping)
    (holdsFirst : files first = .document (.dict middle) formedMiddle)
    (holdsSecond : files second = .document (.dict last) formedLast)
    (holdsBoth : files combined = .document (.dict (deepMerge middle last))
      (deepMerge_wellFormed last (Value.wellFormed_dict.mp formedLast).2 formedMiddle)) :
    ∃ earlier separate regrouped,
      loadAndMergeConfigs files before = .ok earlier ∧
      loadAndMergeConfigs files (before ++ first :: second :: after) = .ok separate ∧
      loadAndMergeConfigs files (before ++ combined :: after) = .ok regrouped ∧
      ((∀ path, path ≠ [] →
          (Value.dict separate).binding path = (Value.dict regrouped).binding path) ↔
        ∀ path, Shadowed middle last path →
          (∀ configPath ∈ after, (files configPath).status path = .neutral) →
          (Value.dict earlier).binding path = .unbound) := by
  have firstHolds : (files first).HoldsMapping := by
    rw [holdsFirst]
    exact fun _ => ⟨middle, rfl⟩
  have secondHolds : (files second).HoldsMapping := by
    rw [holdsSecond]
    exact fun _ => ⟨last, rfl⟩
  have combinedHolds : (files combined).HoldsMapping := by
    rw [holdsBoth]
    exact fun _ => ⟨_, rfl⟩
  obtain ⟨earlier, earlierLoaded, earlierBound⟩ := loadAndMergeConfigs_layered files beforeHold
  obtain ⟨separate, separateLoaded, separateBound⟩ :=
    @loadAndMergeConfigs_layered Key _ files (before ++ first :: second :: after) (by
      simp only [List.forall_mem_append, List.forall_mem_cons]
      exact ⟨beforeHold, firstHolds, secondHolds, afterHold⟩)
  obtain ⟨regrouped, regroupedLoaded, regroupedBound⟩ :=
    @loadAndMergeConfigs_layered Key _ files (before ++ combined :: after) (by
      simp only [List.forall_mem_append, List.forall_mem_cons]
      exact ⟨beforeHold, combinedHolds, afterHold⟩)
  refine ⟨earlier, separate, regrouped, earlierLoaded, separateLoaded, regroupedLoaded, ?_⟩
  have separateLast : ∀ path, path ≠ [] → (Value.dict separate).binding path =
      layered (after.map files) path (((Value.dict last).status path).over
        (((Value.dict middle).status path).over ((Value.dict earlier).binding path))) := by
    intro path nonempty
    rw [separateBound path nonempty, earlierBound path nonempty, List.map_append, layered_append,
      List.map_cons, List.map_cons, holdsFirst, holdsSecond, layered_cons, layered_cons,
      status_document nonempty, status_document nonempty]
  have regroupedLast : ∀ path, path ≠ [] → (Value.dict regrouped).binding path =
      layered (after.map files) path (((Value.dict (deepMerge middle last)).status path).over
        ((Value.dict earlier).binding path)) := by
    intro path nonempty
    rw [regroupedBound path nonempty, earlierBound path nonempty, List.map_append, layered_append,
      List.map_cons, holdsBoth, layered_cons, status_document nonempty]
  constructor
  · intro same path shadowed silent
    have agree := same path shadowed.ne_nil
    have afterSilent : ∀ file ∈ after.map files, file.status path = .neutral :=
      List.forall_mem_map.mpr silent
    obtain ⟨showing, cut⟩ := (over_regrouped shadowed.ne_nil formedLast
      ((Value.dict earlier).binding path)).1 shadowed
    rw [separateLast path shadowed.ne_nil, regroupedLast path shadowed.ne_nil,
      layered_of_neutral afterSilent, layered_of_neutral afterSilent, showing, cut] at agree
    exact agree.symm
  · intro nothingShows path nonempty
    rw [separateLast path nonempty, regroupedLast path nonempty]
    by_cases silent : ∀ configPath ∈ after, (files configPath).status path = .neutral
    · by_cases shadowed : Shadowed middle last path
      · obtain ⟨showing, cut⟩ := (over_regrouped nonempty formedLast
          ((Value.dict earlier).binding path)).1 shadowed
        rw [showing, cut, nothingShows path shadowed silent]
      · rw [(over_regrouped nonempty formedLast _).2 shadowed]
    · push Not at silent
      obtain ⟨configPath, listed, decisive⟩ := silent
      exact layered_of_decided (List.mem_map_of_mem listed) decisive _ _

private def threeFiles : String → File String
  | "default.yaml" =>
      .document (.dict [("logging", .dict [("level", .string "INFO")])]) (by decide)
  | "silent.yaml" => .document (.dict [("logging", .scalar .none)]) (by decide)
  | "verbose.yaml" =>
      .document (.dict [("logging", .dict [("format", .string "long")])]) (by decide)
  | "both.yaml" =>
      .document (.dict [("logging", .dict [("format", .string "long")])]) (by decide)
  | _ => .missing

/-- Replacing the last two files brings back the level that the middle one cut off. -/
theorem loadAndMergeConfigs_regroup_shows :
    ∃ separate regrouped,
      loadAndMergeConfigs threeFiles ["default.yaml", "silent.yaml", "verbose.yaml"] =
        .ok separate ∧
      loadAndMergeConfigs threeFiles ["default.yaml", "both.yaml"] = .ok regrouped ∧
      ¬ ∀ path, path ≠ [] →
        (Value.dict separate).binding path = (Value.dict regrouped).binding path := by
  have hold : ∀ configPath ∈ ["default.yaml"], (threeFiles configPath).HoldsMapping := by
    intro configPath listed
    rw [List.mem_singleton.mp listed]
    exact fun _ => ⟨_, rfl⟩
  obtain ⟨earlier, separate, regrouped, earlierLoaded, separateLoaded, regroupedLoaded, same⟩ :=
    @loadAndMergeConfigs_regroup_iff String _ threeFiles ["default.yaml"] []
      "silent.yaml" "verbose.yaml" "both.yaml" _ _ _ _ hold (by simp) rfl rfl rfl
  refine ⟨separate, regrouped, separateLoaded, regroupedLoaded, fun agree => ?_⟩
  have levelShadowed : Shadowed [("logging", .scalar .none)]
      [("logging", .dict [("format", .string "long")])] ["logging", "level"] :=
    ⟨rfl, ["logging"], ["level"], rfl, ⟨.scalar .none, rfl⟩, rfl⟩
  have unbound := same.mp agree ["logging", "level"] levelShadowed (by simp)
  obtain rfl := Except.ok.inj earlierLoaded
  cases unbound

/-- Listed last, a file that decides a path binds it. -/
theorem exists_perm_binds {configPaths : List String} {configPath : String} {path : List Key}
    (listed : configPath ∈ configPaths) (decisive : (files configPath).status path ≠ .neutral) :
    ∃ reordered : List String, reordered.Perm configPaths ∧
      layered (reordered.map files) path .unbound = ((files configPath).status path).binding := by
  refine ⟨configPaths.erase configPath ++ [configPath], ?_, ?_⟩
  · exact (List.perm_append_singleton _ _).trans (List.perm_cons_erase listed).symm
  · rw [List.map_append]
    exact layered_of_last decisive (by simp) _

/-- The order of the files is irrelevant exactly when any two of them that both say
something about a path bind it alike. -/
theorem loadAndMergeConfigs_perm_iff {configPaths : List String}
    (hold : ∀ configPath ∈ configPaths, (files configPath).HoldsMapping) :
    (∀ reordered : List String, reordered.Perm configPaths → ∃ left right,
        loadAndMergeConfigs files reordered = .ok left ∧
        loadAndMergeConfigs files configPaths = .ok right ∧
        ∀ path, path ≠ [] → (Value.dict left).binding path = (Value.dict right).binding path) ↔
      ∀ path, path ≠ [] → ∀ one ∈ configPaths, ∀ other ∈ configPaths,
        (files one).status path ≠ .neutral → (files other).status path ≠ .neutral →
        ((files one).status path).binding = ((files other).status path).binding := by
  obtain ⟨merged, loaded, bound⟩ := loadAndMergeConfigs_layered files hold
  constructor
  · intro irrelevant path nonempty
    have settled : ∀ configPath ∈ configPaths, (files configPath).status path ≠ .neutral →
        ((files configPath).status path).binding = (Value.dict merged).binding path := by
      intro configPath listed decisive
      obtain ⟨reordered, permutation, binds⟩ := exists_perm_binds files listed decisive
      obtain ⟨left, right, leftLoaded, rightLoaded, same⟩ := irrelevant reordered permutation
      obtain ⟨again, againLoaded, againBound⟩ := loadAndMergeConfigs_layered files
        fun other member => hold other (permutation.mem_iff.mp member)
      obtain rfl := Except.ok.inj (leftLoaded.symm.trans againLoaded)
      obtain rfl := Except.ok.inj (rightLoaded.symm.trans loaded)
      rw [← binds, ← againBound path nonempty, same path nonempty]
    intro one oneListed other otherListed oneDecisive otherDecisive
    rw [settled one oneListed oneDecisive, settled other otherListed otherDecisive]
  · intro agree reordered permutation
    obtain ⟨left, leftLoaded, leftBound⟩ := loadAndMergeConfigs_layered files
      fun other member => hold other (permutation.mem_iff.mp member)
    refine ⟨left, merged, leftLoaded, loaded, fun path nonempty => ?_⟩
    rw [leftBound path nonempty, bound path nonempty]
    by_cases decided : ∃ configPath ∈ configPaths, (files configPath).status path ≠ .neutral
    · obtain ⟨configPath, listed, decisive⟩ := decided
      have settled : ∀ names : List String, names.Perm configPaths →
          layered (names.map files) path .unbound =
            ((files configPath).status path).binding := by
        intro names samePaths
        apply layered_of_agreeing
        · exact ⟨files configPath,
            List.mem_map_of_mem (samePaths.mem_iff.mpr listed), decisive⟩
        · intro file member said
          obtain ⟨other, otherListed, rfl⟩ := List.mem_map.mp member
          exact agree path nonempty other (samePaths.mem_iff.mp otherListed) configPath listed
            said decisive
      rw [settled reordered permutation, settled configPaths (List.Perm.refl _)]
    · push Not at decided
      rw [layered_of_neutral, layered_of_neutral]
      · exact List.forall_mem_map.mpr decided
      · exact List.forall_mem_map.mpr fun other member =>
          decided other (permutation.mem_iff.mp member)

theorem loadAndMergeConfigs_perm_default_silent :
    ¬ ∀ reordered : List String, reordered.Perm ["default.yaml", "silent.yaml"] →
      ∃ left right, loadAndMergeConfigs threeFiles reordered = .ok left ∧
        loadAndMergeConfigs threeFiles ["default.yaml", "silent.yaml"] = .ok right ∧
        ∀ path, path ≠ [] →
          (Value.dict left).binding path = (Value.dict right).binding path := by
  have hold : ∀ configPath ∈ ["default.yaml", "silent.yaml"],
      (threeFiles configPath).HoldsMapping := by
    intro configPath listed
    rcases List.mem_cons.mp listed with rfl | later
    · exact fun _ => ⟨_, rfl⟩
    · rw [List.mem_singleton.mp later]
      exact fun _ => ⟨_, rfl⟩
  have defaultSays : (threeFiles "default.yaml").status ["logging"] = .mapping := rfl
  have silentSays : (threeFiles "silent.yaml").status ["logging"] = .set (.scalar .none) := rfl
  intro irrelevant
  have same := (loadAndMergeConfigs_perm_iff threeFiles hold).mp irrelevant ["logging"] (by simp)
    "default.yaml" (by simp) "silent.yaml" (by simp) (by simp [defaultSays])
    (by simp [silentSays])
  rw [defaultSays, silentSays] at same
  cases same

end Loading

end DemoBase.Backend
