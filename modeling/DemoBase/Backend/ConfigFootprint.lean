import DemoBase.Backend.SigningKey

/-!
Owns what loading the configuration reads. The variables are those the code asks for by
name and those the merged files name in placeholders; a placeholder in a layer that a
later one replaces is not among them. Nothing else in the process environment or the
file system matters.
-/

set_option autoImplicit false

namespace DemoBase.Backend

open DemoBase.Foundations

/-- The variables a text names. -/
def namesInString (text : String) : List String :=
  (envVarPattern.found text.toList).map fun found => String.ofList found.varName

section Names

variable {Key : Type}

mutual

/-- The variables a value names, wherever in it. -/
def namesInValue : Value Key → List String
  | .dict entries => namesInEntries entries
  | .list items => namesInItems items
  | .string text => namesInString text
  | .scalar _ => []

def namesInEntries : Entries Key → List String
  | [] => []
  | (_, value) :: rest => namesInValue value ++ namesInEntries rest

def namesInItems : List (Value Key) → List String
  | [] => []
  | item :: rest => namesInValue item ++ namesInItems rest

end

/-- The environments give the names the same values. -/
def AgreeOn (names : List String) (left right : Environ) : Prop :=
  ∀ name ∈ names, left name = right name

variable {left right : Environ}

theorem AgreeOn.append {names others : List String}
    (agree : AgreeOn (names ++ others) left right) :
    AgreeOn names left right ∧ AgreeOn others left right :=
  ⟨fun name member => agree name (List.mem_append_left _ member),
    fun name member => agree name (List.mem_append_right _ member)⟩

theorem replaceInString_congr {text : String} (agree : AgreeOn (namesInString text) left right) :
    replaceInString left text = replaceInString right text := by
  unfold replaceInString
  apply congrArg String.ofList
  apply Substitution.Pattern.sub_congr
  intro found member
  have same : left (String.ofList found.varName) = right (String.ofList found.varName) :=
    agree _ (List.mem_map_of_mem member)
  unfold replaceVar
  rw [same]

mutual

/-- Resolving a value asks for the variables it names and for no others. -/
theorem replaceEnvVariables_congr :
    (value : Value Key) → AgreeOn (namesInValue value) left right →
      replaceEnvVariables left value = replaceEnvVariables right value
  | .dict entries, agree => by
      rw [namesInValue] at agree
      rw [replaceEnvVariables, replaceEnvVariables, replaceInEntries_congr entries agree]
  | .list items, agree => by
      rw [namesInValue] at agree
      rw [replaceEnvVariables, replaceEnvVariables, replaceInItems_congr items agree]
  | .string text, agree => by
      rw [namesInValue] at agree
      rw [replaceEnvVariables, replaceEnvVariables, replaceInString_congr agree]
  | .scalar value, _ => by
      rw [replaceEnvVariables, replaceEnvVariables]

theorem replaceInEntries_congr :
    (entries : Entries Key) → AgreeOn (namesInEntries entries) left right →
      replaceInEntries left entries = replaceInEntries right entries
  | [], _ => rfl
  | (key, value) :: rest, agree => by
      rw [namesInEntries] at agree
      rw [replaceInEntries, replaceInEntries, replaceEnvVariables_congr value agree.append.1,
        replaceInEntries_congr rest agree.append.2]

theorem replaceInItems_congr :
    (items : List (Value Key)) → AgreeOn (namesInItems items) left right →
      replaceInItems left items = replaceInItems right items
  | [], _ => rfl
  | item :: rest, agree => by
      rw [namesInItems] at agree
      rw [replaceInItems, replaceInItems, replaceEnvVariables_congr item agree.append.1,
        replaceInItems_congr rest agree.append.2]

end

end Names

/-! ### Loading -/

/-- The variable that lists the files of the deployment, where one does. -/
def pathVariables : DeploymentType → List String
  | .local | .test => []
  | .development | .production => ["CONFIG_PATHS"]

/-- The variable `validate_jwt_secret` looks at, where it does. -/
def secretVariables : DeploymentType → List String
  | .test => []
  | _ => ["JWT_SECRET_KEY"]

namespace ConfigSources

variable {Key : Type} [DecidableEq Key] (self : ConfigSources Key)

/-- The files of the deployment. -/
def listedFiles : List String :=
  match getDeploymentType self.environ with
  | .error _ => []
  | .ok deploymentType =>
      match getConfigPathsForDeployment self.environ deploymentType with
      | .error _ => []
      | .ok configPaths => configPaths

/-- The variables the merged files name. -/
def namedVariables (deploymentType : DeploymentType) : List String :=
  match self.mergedConfig deploymentType with
  | .error _ => []
  | .ok configData => namesInEntries configData

/-- The variables loading the configuration reads. -/
def readVariables : List String :=
  "DEPLOYMENT_TYPE" ::
    match getDeploymentType self.environ with
    | .error _ => []
    | .ok deploymentType =>
        secretVariables deploymentType ++ pathVariables deploymentType ++
          self.namedVariables deploymentType

end ConfigSources

theorem validateJwtSecret_congr {left right : Environ} {deploymentType : DeploymentType}
    (agree : AgreeOn (secretVariables deploymentType) left right) :
    validateJwtSecret left deploymentType = validateJwtSecret right deploymentType := by
  by_cases isTest : deploymentType = .test
  · rw [validateJwtSecret, validateJwtSecret, if_pos isTest, if_pos isTest]
  · have listed : "JWT_SECRET_KEY" ∈ secretVariables deploymentType := by
      cases deploymentType with
      | test => exact absurd rfl isTest
      | _ => exact List.mem_cons_self
    have same : UnsetOrEmpty left "JWT_SECRET_KEY" ↔ UnsetOrEmpty right "JWT_SECRET_KEY" := by
      unfold UnsetOrEmpty
      rw [agree _ listed]
    simp only [validateJwtSecret, same]

theorem getConfigPathsForDeployment_congr {left right : Environ}
    {deploymentType : DeploymentType} (agree : AgreeOn (pathVariables deploymentType) left right) :
    getConfigPathsForDeployment left deploymentType =
      getConfigPathsForDeployment right deploymentType := by
  cases deploymentType with
  | «local» => rfl
  | test => rfl
  | _ =>
      simp only [getConfigPathsForDeployment]
      rw [agree "CONFIG_PATHS" List.mem_cons_self]

section Footprint

variable {Key : Type} [DecidableEq Key] {left right : ConfigSources Key}

theorem mergedConfig_congr {deploymentType : DeploymentType}
    (samePaths : getConfigPathsForDeployment left.environ deploymentType =
      getConfigPathsForDeployment right.environ deploymentType)
    (sameFiles : ∀ configPaths,
      getConfigPathsForDeployment left.environ deploymentType = .ok configPaths →
      ∀ configPath ∈ configPaths, left.files configPath = right.files configPath) :
    left.mergedConfig deploymentType = right.mergedConfig deploymentType := by
  unfold ConfigSources.mergedConfig
  rw [← samePaths]
  cases listed : getConfigPathsForDeployment left.environ deploymentType with
  | error error => rfl
  | ok configPaths =>
      show loadAndMergeConfigs left.files configPaths = loadAndMergeConfigs right.files configPaths
      unfold loadAndMergeConfigs
      rw [List.map_congr_left (sameFiles configPaths listed)]

/-- Two process environments and file systems load the same configuration, or fail alike,
when they agree on the variables one of them reads and on the files it lists. -/
theorem getConfigFromFiles_footprint
    (sameModel : left.applicationConfig = right.applicationConfig)
    (sameVariables : AgreeOn left.readVariables left.environ right.environ)
    (sameFiles : ∀ configPath ∈ left.listedFiles,
      left.files configPath = right.files configPath) :
    left.getConfigFromFiles = right.getConfigFromFiles := by
  have sameType : getDeploymentType left.environ = getDeploymentType right.environ := by
    unfold getDeploymentType
    rw [sameVariables "DEPLOYMENT_TYPE" List.mem_cons_self]
  unfold ConfigSources.getConfigFromFiles
  rw [← sameType, ← sameModel]
  cases deployed : getDeploymentType left.environ with
  | error error => rfl
  | ok deploymentType =>
      unfold ConfigSources.readVariables at sameVariables
      unfold ConfigSources.listedFiles at sameFiles
      rw [deployed] at sameVariables sameFiles
      have onType : AgreeOn (secretVariables deploymentType ++ pathVariables deploymentType ++
          left.namedVariables deploymentType) left.environ right.environ :=
        fun name member => sameVariables name (List.mem_cons_of_mem _ member)
      obtain ⟨named, onData⟩ := onType.append
      obtain ⟨onSecret, onPaths⟩ := named.append
      have samePaths := getConfigPathsForDeployment_congr onPaths
      have sameData : left.mergedConfig deploymentType = right.mergedConfig deploymentType := by
        apply mergedConfig_congr samePaths
        intro configPaths listed
        simp only [listed] at sameFiles
        exact sameFiles
      simp only [validateJwtSecret_congr onSecret, ← sameData]
      cases merged : left.mergedConfig deploymentType with
      | error error => rfl
      | ok configData =>
          unfold ConfigSources.namedVariables at onData
          rw [merged] at onData
          have sameValues : replaceInEntries left.environ configData =
              replaceInEntries right.environ configData := replaceInEntries_congr configData onData
          simp only [sameValues]

end Footprint

/-- The shipped files name two variables; any other may change, and so may any file that is
not listed. -/
theorem getConfigFromFiles_footprint_shipped :
    { referenceSources with
      environ := fun name => if name = "HOME" then none else referenceSources.environ name
      files := fun path =>
        if path = "resources/prod_config.yaml" then .missing else referenceSources.files path
    }.getConfigFromFiles = referenceSources.getConfigFromFiles := by
  symm
  apply getConfigFromFiles_footprint
  · rfl
  · have read : referenceSources.readVariables =
        ["DEPLOYMENT_TYPE", "JWT_SECRET_KEY", "DATABASE_URL", "JWT_SECRET_KEY"] := by rfl
    intro name member
    have distinct : name ≠ "HOME" := by
      rintro rfl
      rw [read] at member
      exact absurd member (by decide)
    exact (if_neg distinct).symm
  · have listed : referenceSources.listedFiles =
        ["resources/default_config.yaml", "resources/local_config.yaml"] := by rfl
    intro configPath member
    have distinct : configPath ≠ "resources/prod_config.yaml" := by
      rintro rfl
      rw [listed] at member
      exact absurd member (by decide)
    exact (if_neg distinct).symm

end DemoBase.Backend
