import DemoBase.Backend.LoadConfig

/-!
Owns the order of the two passes over the configuration files. Resolving the
placeholders of the merged files gives what merging the resolved files gives,
because substitution keeps every key and the kind of every value, and the merge
looks at nothing else.
-/

set_option autoImplicit false

namespace DemoBase.Backend

open DemoBase.Foundations.Dict

variable {Key : Type} [DecidableEq Key]

/-! ### One merge -/

mutual

theorem replace_mergeValue (envGetter : Environ) (current : Option (Value Key)) :
    (value : Value Key) →
      replaceEnvVariables envGetter (mergeValue current value) =
        mergeValue (current.map (replaceEnvVariables envGetter))
          (replaceEnvVariables envGetter value)
  | .dict update => by
      cases current with
      | none => simp only [mergeValue, replaceEnvVariables, Option.map_none]
      | some present =>
          cases present with
          | dict base =>
              have merged := replace_deepMerge envGetter base update
              simp only [mergeValue, replaceEnvVariables, Option.map_some, merged]
          | _ => simp only [mergeValue, replaceEnvVariables, Option.map_some]
  | .scalar scalar => by simp only [mergeValue, replaceEnvVariables]
  | .string text => by simp only [mergeValue, replaceEnvVariables]
  | .list items => by simp only [mergeValue, replaceEnvVariables]

/-- The loop assigns resolved values to a resolved dictionary. -/
theorem replace_deepMerge (envGetter : Environ) (result : Entries Key) :
    (update : Entries Key) →
      replaceInEntries envGetter (deepMerge result update) =
        deepMerge (replaceInEntries envGetter result) (replaceInEntries envGetter update)
  | [] => by simp only [deepMerge, replaceInEntries]
  | (key, value) :: rest => by
      have assigned : replaceInEntries envGetter
          (assign key (mergeValue (result.lookup key) value) result) =
            assign key (mergeValue ((replaceInEntries envGetter result).lookup key)
              (replaceEnvVariables envGetter value)) (replaceInEntries envGetter result) := by
        rw [replaceInEntries_eq, mapValues_assign, replace_mergeValue envGetter _ value,
          replaceInEntries_eq, lookup_mapValues]
      rw [deepMerge, replaceInEntries, deepMerge, replace_deepMerge envGetter _ rest, assigned]

end

/-! ### Any number of files -/

/-- The loop of `load_and_merge_configs`, had it resolved each file before merging
it. -/
def mergeResolvedFiles (envGetter : Environ) (configData : Entries Key) :
    List (File Key) → Except PyException (Entries Key)
  | [] => .ok configData
  | file :: rest =>
      match loadYamlFile file with
      | .error error => .error error
      | .ok none => mergeResolvedFiles envGetter configData rest
      | .ok (some yamlData) =>
          match mergeDocument configData (replaceEnvVariables envGetter yamlData) with
          | .error error => .error error
          | .ok merged => mergeResolvedFiles envGetter merged rest

/-- `get_config_from_files`, had it resolved each file before merging it. -/
def ConfigSources.getConfigFromResolvedFiles (self : ConfigSources Key) :
    Except PyException ApplicationConfig :=
  match getDeploymentType self.environ with
  | .error error => .error error
  | .ok deploymentType =>
      match validateJwtSecret self.environ deploymentType with
      | .error error => .error error
      | .ok () =>
          match getConfigPathsForDeployment self.environ deploymentType with
          | .error error => .error error
          | .ok configPaths =>
              match mergeResolvedFiles self.environ [] (configPaths.map self.files) with
              | .error error => .error error
              | .ok configData => parseConfig self.applicationConfig configData

/-- A document merges or is refused as its resolved form is. -/
theorem mergeDocument_resolved (envGetter : Environ) (configData : Entries Key)
    (yamlData : Value Key) :
    mergeDocument (replaceInEntries envGetter configData) (replaceEnvVariables envGetter yamlData) =
      (mergeDocument configData yamlData).map (replaceInEntries envGetter) := by
  cases yamlData with
  | dict update =>
      rw [replaceEnvVariables, mergeDocument, mergeDocument, Except.map,
        replace_deepMerge envGetter configData update]
  | _ => rfl

theorem mergeResolvedFiles_eq (envGetter : Environ) (configData : Entries Key)
    (files : List (File Key)) :
    mergeResolvedFiles envGetter (replaceInEntries envGetter configData) files =
      (mergeFiles configData files).map (replaceInEntries envGetter) := by
  induction files generalizing configData with
  | nil => rfl
  | cons file rest inductionHypothesis =>
      rw [mergeResolvedFiles, mergeFiles]
      cases loadYamlFile file with
      | error error => rfl
      | ok loaded =>
          cases loaded with
          | none => exact inductionHypothesis configData
          | some yamlData =>
              simp only [mergeDocument_resolved]
              cases mergeDocument configData yamlData with
              | error error => rfl
              | ok merged => exact inductionHypothesis merged

theorem replace_foldl_deepMerge (envGetter : Environ) (base : Entries Key)
    (documents : List (Entries Key)) :
    replaceInEntries envGetter (documents.foldl deepMerge base) =
      (documents.map (replaceInEntries envGetter)).foldl deepMerge
        (replaceInEntries envGetter base) := by
  rw [List.foldl_map]
  symm
  apply List.foldl_hom
  intro result update
  exact (replace_deepMerge envGetter result update).symm

/-- Substitution commutes with merging, for a list of mappings and for the files of a
deployment, those that raise included. -/
theorem substitution_commutes_with_merging :
    (∀ (envGetter : Environ) (base : Entries Key) (documents : List (Entries Key)),
      replaceEnvVariables envGetter (.dict (documents.foldl deepMerge base)) =
        .dict ((documents.map (replaceInEntries envGetter)).foldl deepMerge
          (replaceInEntries envGetter base))) ∧
      ∀ self : ConfigSources Key, self.getConfigFromResolvedFiles = self.getConfigFromFiles := by
  constructor
  · intro envGetter base documents
    rw [replaceEnvVariables, replace_foldl_deepMerge]
  · intro self
    have layered : ∀ files : List (File Key), mergeResolvedFiles self.environ [] files =
        (mergeFiles [] files).map (replaceInEntries self.environ) :=
      mergeResolvedFiles_eq self.environ []
    unfold ConfigSources.getConfigFromResolvedFiles ConfigSources.getConfigFromFiles
      ConfigSources.mergedConfig loadAndMergeConfigs
    cases getDeploymentType self.environ with
    | error error => rfl
    | ok deploymentType =>
        simp only [layered]
        cases validateJwtSecret self.environ deploymentType with
        | error error => rfl
        | ok validated =>
            cases getConfigPathsForDeployment self.environ deploymentType with
            | error error => rfl
            | ok configPaths =>
                simp only
                cases mergeFiles [] (configPaths.map self.files) with
                | error error => rfl
                | ok configData => rfl

end DemoBase.Backend
