import DemoBase.Backend.LayeredConfig
import DemoBase.Backend.PlaceholderGrammar

/-!
Owns where the JWT signing key of a loaded configuration comes from. The check
looks at the process environment, the key arrives through a placeholder of the
merged files, and pydantic reads it from there; outside the test deployment the
committed fallback is never what arrives.
-/

set_option autoImplicit false

namespace DemoBase.Backend

open DemoBase.Foundations DemoBase.Foundations.Dict

/-- `${name:default}`. -/
def placeholder (name default : String) : String :=
  "$\x7b" ++ name ++ ":" ++ default ++ "\x7d"

/-- The text is exactly one placeholder for the signing key; a default ends at the
first closing brace, so it holds none. -/
def IsSecretPlaceholder (text : String) : Prop :=
  ∃ default, '}' ∉ default.toList ∧ text = placeholder "JWT_SECRET_KEY" default

private def secretKeyName : ReferenceName where
  text := "JWT_SECRET_KEY"
  nonempty := by decide
  noColon := by decide
  unclosed := by decide

theorem replaceInString_secretPlaceholder {environ : Environ} {text secret : String}
    (isPlaceholder : IsSecretPlaceholder text) (present : environ "JWT_SECRET_KEY" = some secret) :
    replaceInString environ text = secret := by
  obtain ⟨default, closed, rfl⟩ := isPlaceholder
  let found : EnvVarMatch := secretKeyName.found (some ⟨default, closed⟩)
  have proper : found.Proper := secretKeyName.found_proper _
  have spelled : placeholder "JWT_SECRET_KEY" default = String.ofList found.group0 := by
    rw [← Segment.text_referenceOr, String.ofList_toList]
    rfl
  have name : String.ofList found.varName = "JWT_SECRET_KEY" := String.ofList_toList
  have value : replaceVar environ found = secret.toList := by
    simp only [replaceVar, name, present]
  rw [spelled, replaceInString_group0 environ proper, value, String.ofList_toList]

section SecretKey

variable {Key : Type} [DecidableEq Key]

/-- `api.jwt.secret_key`, with `text` the key a plain YAML text is. -/
def secretKeyPath (text : String → Key) : List Key :=
  [text "api", text "jwt", text "secret_key"]

/-- Pydantic takes a string field as it stands in the data it validates. -/
def ReadsSecretKey (applicationConfig : Entries Key → Except ConstructionError ApplicationConfig)
    (path : List Key) : Prop :=
  ∀ configData config secret, applicationConfig configData = .ok config →
    (Value.dict configData).status path = .set (.string secret) →
    config.api.jwt.secretKey = secret

/-- The merged files of the deployment bind the path to a placeholder for the
signing key. -/
def ShipsPlaceholder (self : ConfigSources Key) (path : List Key) : Prop :=
  ∀ deploymentType merged, getDeploymentType self.environ = .ok deploymentType →
    self.mergedConfig deploymentType = .ok merged →
    ∃ text, IsSecretPlaceholder text ∧ (Value.dict merged).status path = .set (.string text)

variable {self : ConfigSources Key}

theorem getConfigFromFiles_ok {config : ApplicationConfig} {deploymentType : DeploymentType}
    (deployed : getDeploymentType self.environ = .ok deploymentType)
    (returned : self.getConfigFromFiles = .ok config) :
    validateJwtSecret self.environ deploymentType = .ok () ∧
      ∃ merged, self.mergedConfig deploymentType = .ok merged ∧
        self.applicationConfig (replaceInEntries self.environ merged) = .ok config := by
  unfold ConfigSources.getConfigFromFiles at returned
  rw [deployed] at returned
  cases validated : validateJwtSecret self.environ deploymentType with
  | error error => simp [validated] at returned
  | ok =>
      cases loaded : self.mergedConfig deploymentType with
      | error error => simp [validated, loaded] at returned
      | ok merged =>
          simp only [validated, loaded, parseConfig] at returned
          refine ⟨rfl, merged, rfl, ?_⟩
          split at returned
          · rename_i parsed constructed
            rw [constructed, Except.ok.inj returned]
          · cases returned
          · cases returned

/-- Outside the test deployment the check refuses exactly a missing or empty key. -/
theorem validateJwtSecret_of_not_test {environ : Environ} {deploymentType : DeploymentType}
    (notTest : deploymentType ≠ .test) :
    validateJwtSecret environ deploymentType =
      if UnsetOrEmpty environ "JWT_SECRET_KEY" then .error (jwtSecretMissing deploymentType)
      else .ok () := by
  rw [validateJwtSecret, if_neg notTest]

/-- Outside the test deployment a loaded configuration signs with the key of the
process environment; without such a key, or with a deployment type that is none,
loading raises. -/
theorem getConfigFromFiles_signingKey (self : ConfigSources Key) (text : String → Key)
    (reads : ReadsSecretKey self.applicationConfig (secretKeyPath text))
    (ships : ShipsPlaceholder self (secretKeyPath text))
    (notTest : getDeploymentType self.environ ≠ .ok .test) :
    (∀ config, self.getConfigFromFiles = .ok config →
        ∃ secret, self.environ "JWT_SECRET_KEY" = some secret ∧ secret ≠ "" ∧
          config.api.jwt.secretKey = secret) ∧
      (UnsetOrEmpty self.environ "JWT_SECRET_KEY" →
        ∃ error, self.getConfigFromFiles = .error error) := by
  cases deployed : getDeploymentType self.environ with
  | error error =>
      have raised : self.getConfigFromFiles = .error error := by
        rw [ConfigSources.getConfigFromFiles, deployed]
      rw [raised]
      refine ⟨?_, fun _ => ⟨error, rfl⟩⟩
      intro config returned
      cases returned
  | ok deploymentType =>
      have validated : validateJwtSecret self.environ deploymentType = _ :=
        validateJwtSecret_of_not_test fun isTest => notTest (isTest ▸ deployed)
      constructor
      · intro config returned
        rcases getConfigFromFiles_ok deployed returned with ⟨accepted, merged, loaded, constructed⟩
        rcases ships deploymentType merged deployed loaded with ⟨shipped, isPlaceholder, inFiles⟩
        have present : ¬ UnsetOrEmpty self.environ "JWT_SECRET_KEY" := by
          intro missing
          rw [validated, if_pos missing] at accepted
          cases accepted
        have isSet : self.environ "JWT_SECRET_KEY" ≠ none := fun unset => present (Or.inl unset)
        obtain ⟨secret, isSecret⟩ := Option.ne_none_iff_exists'.mp isSet
        refine ⟨secret, isSecret, fun empty => present (Or.inr (empty ▸ isSecret)), ?_⟩
        have resolved := status_replaceEnvVariables self.environ inFiles
        rw [replaceEnvVariables, replaceEnvVariables,
          replaceInString_secretPlaceholder isPlaceholder isSecret] at resolved
        exact reads _ config secret constructed resolved
      · intro missing
        refine ⟨jwtSecretMissing deploymentType, ?_⟩
        rw [ConfigSources.getConfigFromFiles, deployed]
        simp only [validated, if_pos missing]

end SecretKey

/-! ### The shipped files -/

private def words (texts : List String) : Value String := .list (texts.map .string)

/-- `resources/default_config.yaml`. -/
def defaultConfig : Entries String :=
  [("api", .dict
    [("title", .string "Demo API"), ("host", .string "localhost"), ("port", .scalar (.int 8000)),
      ("origins", words []), ("allow_credentials", .scalar (.bool true)),
      ("allow_methods", words ["GET", "POST", "PUT", "DELETE"]),
      ("database", .dict
        [("url", .string "$\x7bDATABASE_URL\x7d"), ("pool_size", .scalar (.int 5)),
          ("max_overflow", .scalar (.int 10)), ("pool_pre_ping", .scalar (.bool true)),
          ("echo", .scalar (.bool false))]),
      ("middleware", .dict
        [("error_middleware", .dict
            [("return_detailed_internal_errors", .scalar (.bool true))]),
          ("auth_middleware", .dict
            [("path_access", .list
              [.dict [("path", .string "/api/v1/users/me"),
                  ("allowed_roles", words ["user", "admin"]), ("methods", words ["GET"])],
                .dict [("path", .string "/api/v1/users"), ("allowed_roles", words ["admin"]),
                  ("methods", words ["GET", "POST", "PUT", "DELETE"])]])])]),
      ("jwt", .dict
        [("secret_key",
            .string (placeholder "JWT_SECRET_KEY" "your-secret-key-change-in-production")),
          ("algorithm", .string "HS256"), ("access_token_expire_minutes", .scalar (.int 30))])]),
    ("logging", .dict
      [("level", .string "DEBUG"),
        ("format", .string ("%(asctime)s - %(name)s - %(levelname)s - " ++
          "[%(filename)s:%(lineno)d] - %(message)s")),
        ("date_format", .string "%Y-%m-%d %H:%M:%S"), ("handlers", words ["console", "file"]),
        ("file", .dict
          [("enabled", .scalar (.bool true)), ("filename", .string "../data/logs/api.log"),
            ("max_bytes", .scalar (.int 10485760)), ("backup_count", .scalar (.int 5))])])]

/-- `resources/local_config.yaml`. -/
def localConfig : Entries String :=
  [("api", .dict [("origins", words ["http://localhost:4200"])])]

/-- Reads the signing key and takes the other fields as the shipped files have
them. It exists to run the model; no result depends on it. -/
def referenceApplicationConfig (configData : Entries String) :
    Except ConstructionError ApplicationConfig :=
  match (Value.dict configData).status (secretKeyPath id) with
  | .set (.string secret) =>
      .ok ⟨{ origins := ["http://localhost:4200"]
             allowCredentials := true
             allowMethods := [.get, .post, .put, .delete]
             errorMiddleware := ⟨true⟩
             authMiddleware := ⟨defaultPathAccess⟩
             jwt := ⟨secret, "HS256", 30⟩ }⟩
  | .neutral =>
      .error (.validationError [⟨secretKeyPath id, "Field required", "missing"⟩])
  | _ =>
      .error (.validationError
        [⟨secretKeyPath id, "Input should be a valid string", "string_type"⟩])

/-- A local deployment whose signing key looks like a placeholder itself. -/
def referenceSources : ConfigSources String where
  environ
    | "JWT_SECRET_KEY" => some "$\x7bDATABASE_URL\x7d"
    | "DATABASE_URL" => some "postgresql+asyncpg://localhost/demo"
    | _ => none
  files
    | "resources/default_config.yaml" => .document (.dict defaultConfig) (by decide)
    | "resources/local_config.yaml" => .document (.dict localConfig) (by decide)
    | _ => .missing
  applicationConfig := referenceApplicationConfig

theorem referenceApplicationConfig_reads :
    ReadsSecretKey referenceApplicationConfig (secretKeyPath id) := by
  intro configData config secret constructed isSet
  simp only [referenceApplicationConfig, isSet, Except.ok.injEq] at constructed
  rw [← constructed]

theorem referenceSources_ships : ShipsPlaceholder referenceSources (secretKeyPath id) := by
  intro deploymentType merged deployed loaded
  have isLocal : getDeploymentType referenceSources.environ = .ok .local := by rfl
  obtain rfl := Except.ok.inj (deployed.symm.trans isLocal)
  have layered : referenceSources.mergedConfig .local =
      .ok (deepMerge (deepMerge [] defaultConfig) localConfig) := by rfl
  obtain rfl := Except.ok.inj (loaded.symm.trans layered)
  exact ⟨_, ⟨"your-secret-key-change-in-production", by decide, rfl⟩, by rfl⟩

/-- The key of the process environment is used as it stands, placeholder syntax
included. -/
theorem getConfigFromFiles_signingKey_local :
    ∃ config, referenceSources.getConfigFromFiles = .ok config ∧
      config.api.jwt.secretKey = "$\x7bDATABASE_URL\x7d" := by
  obtain ⟨config, returned⟩ : ∃ config, referenceSources.getConfigFromFiles = .ok config :=
    ⟨_, rfl⟩
  have notTest : getDeploymentType referenceSources.environ ≠ .ok .test := by decide
  rcases (getConfigFromFiles_signingKey referenceSources id referenceApplicationConfig_reads
    referenceSources_ships notTest).1 config returned with ⟨secret, isSecret, -, signsWith⟩
  have isValue : referenceSources.environ "JWT_SECRET_KEY" = some "$\x7bDATABASE_URL\x7d" := by rfl
  rw [isSecret] at isValue
  exact ⟨config, returned, signsWith.trans (Option.some.inj isValue)⟩

end DemoBase.Backend
