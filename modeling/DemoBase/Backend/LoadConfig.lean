import DemoBase.Backend.Builtins
import DemoBase.Backend.Config
import DemoBase.Backend.ConfigValues
import DemoBase.Backend.Exceptions
import DemoBase.Foundations.Substitution

/-!
Owns `config/load_config.py` and `get_deployment_type`: merging the configuration
files of a deployment, resolving the placeholders of the merged values, and
handing the result to pydantic. Log output is left out.
-/

set_option autoImplicit false

namespace DemoBase.Backend

open DemoBase.Foundations DemoBase.Foundations.Dict

/-! ### Merging -/

section Merge

variable {Key : Type} [DecidableEq Key]

mutual

/-- What `result[key]` becomes for one item of `update_dict`. -/
def mergeValue (current : Option (Value Key)) : Value Key → Value Key
  | .dict update =>
      match current with
      | some (.dict base) => .dict (deepMerge base update)
      | _ => .dict update
  | value => value

/-- `deep_merge`: the loop over `update_dict.items()`. -/
def deepMerge (result : Entries Key) : Entries Key → Entries Key
  | [] => result
  | (key, value) :: rest =>
      deepMerge (assign key (mergeValue (result.lookup key) value) result) rest

end

/-- What a path in the file system leads to. `unreadable` carries what `open` or
`yaml.safe_load` raises. -/
inductive File (Key : Type) [DecidableEq Key] where
  | missing
  | unreadable (error : PyException)
  | document (value : Value Key) (wellFormed : value.WellFormed)

def loadYamlFile (file : File Key) : Except PyException (Option (Value Key)) :=
  match file with
  | .missing => .ok none
  | .unreadable error => .error error
  | .document value _ => if value.truthy then .ok (some value) else .ok none

/-- `deep_merge(config_data, yaml_data)` for a document of any type. -/
def mergeDocument (configData : Entries Key) (yamlData : Value Key) :
    Except PyException (Entries Key) :=
  match yamlData with
  | .dict update => .ok (deepMerge configData update)
  | other => .error (.other s!"'{other.typeName}' object has no attribute 'items'")

/-- The loop of `load_and_merge_configs`. -/
def mergeFiles (configData : Entries Key) : List (File Key) → Except PyException (Entries Key)
  | [] => .ok configData
  | file :: rest =>
      match loadYamlFile file with
      | .error error => .error error
      | .ok none => mergeFiles configData rest
      | .ok (some yamlData) =>
          match mergeDocument configData yamlData with
          | .error error => .error error
          | .ok merged => mergeFiles merged rest

def loadAndMergeConfigs (files : String → File Key) (configPaths : List String) :
    Except PyException (Entries Key) :=
  mergeFiles [] (configPaths.map files)

end Merge

/-! ### Placeholders -/

/-- A match of `_ENV_VAR_PATTERN`. -/
structure EnvVarMatch where
  varName : List Char
  default : Option (List Char)
deriving DecidableEq, Repr

/-- The matched text. -/
def EnvVarMatch.group0 (found : EnvVarMatch) : List Char :=
  '$' :: '{' :: found.varName ++
    match found.default with
    | none => ['}']
    | some default => ':' :: default ++ ['}']

/-- A character of the name's class `[^:}]`. -/
def isNameChar (character : Char) : Bool :=
  character ≠ ':' && character ≠ '}'

/-- A character of the default's class `[^}]`. -/
def isDefaultChar (character : Char) : Bool :=
  character ≠ '}'

/-- `\$\{([^:}]+)(?::([^}]*))?}` at the start of a text. What may follow each
group is outside its class, so a shorter group never helps the match. -/
def matchEnvVar : List Char → Option EnvVarMatch
  | '$' :: '{' :: text =>
      let varName := text.takeWhile isNameChar
      if varName = [] then none
      else
        match text.dropWhile isNameChar with
        | '}' :: _ => some ⟨varName, none⟩
        | ':' :: text =>
            match text.dropWhile isDefaultChar with
            | '}' :: _ => some ⟨varName, some (text.takeWhile isDefaultChar)⟩
            | _ => none
        | _ => none
  | _ => none

/-- `_ENV_VAR_PATTERN`. -/
def envVarPattern : Substitution.Pattern Char EnvVarMatch where
  matchAt := matchEnvVar
  length := fun found => found.group0.length

/-- The process environment: `os.getenv`. -/
abbrev Environ := String → Option String

def replaceVar (envGetter : Environ) (found : EnvVarMatch) : List Char :=
  match envGetter (String.ofList found.varName) with
  | some envValue => envValue.toList
  | none =>
      match found.default with
      | some default => default
      | none => found.group0

def replaceInString (envGetter : Environ) (text : String) : String :=
  String.ofList (envVarPattern.sub (replaceVar envGetter) text.toList)

section Replace

variable {Key : Type}

mutual

def replaceEnvVariables (envGetter : Environ) : Value Key → Value Key
  | .dict entries => .dict (replaceInEntries envGetter entries)
  | .list items => .list (replaceInItems envGetter items)
  | .string text => .string (replaceInString envGetter text)
  | .scalar value => .scalar value

def replaceInEntries (envGetter : Environ) : Entries Key → Entries Key
  | [] => []
  | (key, value) :: rest =>
      (key, replaceEnvVariables envGetter value) :: replaceInEntries envGetter rest

def replaceInItems (envGetter : Environ) : List (Value Key) → List (Value Key)
  | [] => []
  | item :: rest => replaceEnvVariables envGetter item :: replaceInItems envGetter rest

end

theorem replaceInEntries_eq (envGetter : Environ) (entries : Entries Key) :
    replaceInEntries envGetter entries = mapValues (replaceEnvVariables envGetter) entries := by
  induction entries with
  | nil => rfl
  | cons entry rest inductionHypothesis =>
      rw [replaceInEntries, inductionHypothesis]
      rfl

end Replace

/-! ### The deployment -/

inductive DeploymentType where
  | «local»
  | test
  | development
  | production
deriving DecidableEq, Repr

def DeploymentType.value : DeploymentType → String
  | .local => "local"
  | .test => "test"
  | .development => "dev"
  | .production => "prod"

/-- `DeploymentType(value)`. -/
def DeploymentType.ofValue (value : String) : Option DeploymentType :=
  [.local, .test, .development, .production].find? fun deploymentType =>
    deploymentType.value = value

def getDeploymentType (environ : Environ) : Except PyException DeploymentType :=
  let deploymentTypeStr := lower ((environ "DEPLOYMENT_TYPE").getD "local")
  match DeploymentType.ofValue deploymentTypeStr with
  | some deploymentType => .ok deploymentType
  | none =>
      .error (.other (s!"Invalid DEPLOYMENT_TYPE: {deploymentTypeStr}. " ++
        "Must be one of: ['local', 'test', 'dev', 'prod']"))

/-- `text.split(";")`. -/
def splitPaths (text : String) : List String :=
  (text.toList.splitOn ';').map String.ofList

def baseConfigPaths : String := "resources/default_config.yaml;resources/local_config.yaml"

def testConfigPaths : String := "resources/default_config.yaml;resources/test_config.yaml"

def getConfigPathsForDeployment (environ : Environ) (deploymentType : DeploymentType) :
    Except PyException (List String) :=
  match deploymentType with
  | .local => .ok (splitPaths baseConfigPaths)
  | .test => .ok (splitPaths testConfigPaths)
  | .development | .production =>
      let missing :=
        .error (.other "CONFIG_PATHS environment variable is not set for non-local deployment")
      match environ "CONFIG_PATHS" with
      | none => missing
      | some configPathsEnv =>
          if configPathsEnv = "" then missing else .ok (splitPaths configPathsEnv)

/-- The refusal of `validate_jwt_secret`. -/
def jwtSecretMissing (deploymentType : DeploymentType) : PyException :=
  .other ("JWT_SECRET_KEY environment variable must be set for deployment type " ++
    s!"'{deploymentType.value}'. Refusing to start with the default " ++
    "signing key from default_config.yaml.")

/-- `not os.getenv(name)`. -/
def UnsetOrEmpty (environ : Environ) (name : String) : Prop :=
  environ name = none ∨ environ name = some ""

instance decidableUnsetOrEmpty (environ : Environ) (name : String) :
    Decidable (UnsetOrEmpty environ name) :=
  inferInstanceAs (Decidable (_ ∨ _))

def validateJwtSecret (environ : Environ) (deploymentType : DeploymentType) :
    Except PyException Unit :=
  if deploymentType = .test then .ok ()
  else if UnsetOrEmpty environ "JWT_SECRET_KEY" then .error (jwtSecretMissing deploymentType)
  else .ok ()

/-! ### Validation -/

/-- `ApplicationConfig`, of which the backend model reads the `api` part. -/
structure ApplicationConfig where
  api : ApiConfig
deriving DecidableEq, Repr

/-- One entry of `ValidationError.errors()`. -/
structure ErrorDetails where
  loc : List String
  msg : String
  type : String
deriving DecidableEq, Repr

/-- What calling `ApplicationConfig(**config_data)` raises. -/
inductive ConstructionError where
  | validationError (errors : List ErrorDetails)
  | other (error : PyException)

def ErrorDetails.message (error : ErrorDetails) : String :=
  let fieldPath := " -> ".intercalate error.loc
  s!"Field '{fieldPath}': {error.msg} (type: {error.type})"

def parseConfig {Key : Type}
    (applicationConfig : Entries Key → Except ConstructionError ApplicationConfig)
    (configData : Entries Key) : Except PyException ApplicationConfig :=
  match applicationConfig configData with
  | .ok config => .ok config
  | .error (.validationError errors) =>
      .error (.other
        ("Invalid configuration:\n" ++ "\n".intercalate (errors.map ErrorDetails.message)))
  | .error (.other error) => .error error

/-- Everything `get_config_from_files` meets outside the program: the process
environment, the file system and pydantic's `ApplicationConfig(**config_data)`. -/
structure ConfigSources (Key : Type) [DecidableEq Key] where
  environ : Environ
  files : String → File Key
  applicationConfig : Entries Key → Except ConstructionError ApplicationConfig

namespace ConfigSources

variable {Key : Type} [DecidableEq Key] (self : ConfigSources Key)

/-- The merged files of a deployment, placeholders unresolved. -/
def mergedConfig (deploymentType : DeploymentType) : Except PyException (Entries Key) :=
  match getConfigPathsForDeployment self.environ deploymentType with
  | .error error => .error error
  | .ok configPaths => loadAndMergeConfigs self.files configPaths

def getConfigFromFiles : Except PyException ApplicationConfig :=
  match getDeploymentType self.environ with
  | .error error => .error error
  | .ok deploymentType =>
      match validateJwtSecret self.environ deploymentType with
      | .error error => .error error
      | .ok () =>
          match self.mergedConfig deploymentType with
          | .error error => .error error
          | .ok configData =>
              parseConfig self.applicationConfig (replaceInEntries self.environ configData)

end ConfigSources

end DemoBase.Backend
