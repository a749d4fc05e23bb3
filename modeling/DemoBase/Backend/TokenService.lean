import DemoBase.Backend.Builtins
import DemoBase.Backend.Config
import DemoBase.Backend.Exceptions
import Mathlib.Logic.Encodable.Basic
import Mathlib.Logic.Equiv.List

/-!
Owns `TokenService`: minting and verifying JWT access tokens. PyJWT is a
parameter. What the service relies on is stated once, in `PyJWT.Documented`:
a token decodes to the claims it was encoded from under the same key and
algorithm until its `exp` is reached, and a token is a non-empty string without
whitespace.

Expiry instants are exact; the model covers the range of `datetime`, where the
addition in `create_access_token` does not overflow.
-/

set_option autoImplicit false

namespace DemoBase.Backend

/-- The members of a JWT payload. -/
abbrev Payload := List (String × Json)

/-- What `jwt.decode` raises, by the classes `verify_token` distinguishes. -/
inductive DecodeError where
  | expiredSignatureError
  | invalidTokenError
  | other (error : PyException)
deriving DecidableEq, Repr

/-- The two PyJWT functions the service calls. `decode` receives the accepted
algorithms, the required claims and the present instant. -/
structure PyJWT where
  encode : Payload → String → String → String
  decode : String → String → List String → List String → Instant → Except DecodeError Payload

structure TokenData where
  email : Option String
  role : Option UserRole
deriving DecidableEq, Repr

/-- `_TokenPayload`. -/
structure TokenPayload where
  email : String
  role : UserRole
deriving DecidableEq, Repr

/-- PyJWT's encoding of a `datetime` claim: whole seconds, rounded down. -/
def timestamp (instant : Instant) : Int := instant / microsecondsPerSecond

/-- `token_payload.model_dump(mode="json")` with the `exp` claim added. -/
def TokenPayload.toEncode (payload : TokenPayload) (expire : Instant) : Payload :=
  [("email", .string payload.email), ("role", .string payload.role.value),
    ("exp", .number (timestamp expire))]

def emailClaim (payload : Payload) : Option String :=
  match payload.lookup "email" with
  | some (.string email) => some email
  | _ => none

def roleClaim (payload : Payload) : Option UserRole :=
  match payload.lookup "role" with
  | some (.string value) => UserRole.ofValue value
  | _ => none

/-- `_TokenPayload(**payload)`. On failure the fields pydantic reports. -/
def TokenPayload.validate (payload : Payload) : Except (List String) TokenPayload :=
  match emailClaim payload, roleClaim payload with
  | some email, some role => .ok ⟨email, role⟩
  | none, some _ => .error ["email"]
  | some _, none => .error ["role"]
  | none, none => .error ["email", "role"]

structure TokenService where
  jwt : PyJWT
  jwtConfig : JWTConfig

namespace TokenService

variable (self : TokenService)

def expire (now : Instant) : Instant :=
  now + self.jwtConfig.accessTokenExpireMinutes * microsecondsPerMinute

def createAccessToken (data : TokenData) (now : Instant) : Except PyException String :=
  match data.email, data.role with
  | some email, some role =>
      .ok (self.jwt.encode (TokenPayload.toEncode ⟨email, role⟩ (self.expire now))
        self.jwtConfig.secretKey self.jwtConfig.algorithm)
  | _, _ => .error (.other "email and role are required to create an access token")

def decode (token : String) (now : Instant) : Except DecodeError Payload :=
  self.jwt.decode token self.jwtConfig.secretKey [self.jwtConfig.algorithm] ["exp"] now

def verifyToken (token : String) (now : Instant) : Except PyException (Option TokenData) :=
  match self.decode token now with
  | .error .expiredSignatureError => .ok none
  | .error .invalidTokenError => .ok none
  | .error (.other error) => .error error
  | .ok payload =>
      match TokenPayload.validate payload with
      -- Pydantic's text also quotes the rejected input; the fields are what is kept of it.
      | .error fields => .error (.httpException (invalidTokenException
          s!"Invalid token payload: {fields.length} validation error(s) for _TokenPayload: {fields}"))
      | .ok tokenPayload => .ok (some ⟨some tokenPayload.email, some tokenPayload.role⟩)

end TokenService

/-- The first instant at which a token minted at `now` is rejected. -/
def TokenService.rejectedFrom (self : TokenService) (now : Instant) : Instant :=
  timestamp (self.expire now) * microsecondsPerSecond

/-- PyJWT's documented behaviour on the tokens this program mints. -/
structure PyJWT.Documented (jwt : PyJWT) : Prop where
  decode_encode : ∀ (payload : TokenPayload) (expire : Instant) (key algorithm : String)
    (now : Instant),
    jwt.decode (jwt.encode (payload.toEncode expire) key algorithm) key [algorithm] ["exp"] now =
      if timestamp expire * microsecondsPerSecond ≤ now then .error .expiredSignatureError
      else .ok (payload.toEncode expire)
  compact : ∀ (payload : Payload) (key algorithm : String),
    (jwt.encode payload key algorithm).toList ≠ [] ∧
      ∀ character ∈ (jwt.encode payload key algorithm).toList, isSpace character = false

/-! ### Minting and verifying -/

theorem TokenPayload.validate_toEncode (payload : TokenPayload) (expire : Instant) :
    TokenPayload.validate (payload.toEncode expire) = .ok payload := by
  have email : emailClaim (payload.toEncode expire) = some payload.email := rfl
  have role : roleClaim (payload.toEncode expire) = some payload.role :=
    UserRole.ofValue_value payload.role
  simp only [TokenPayload.validate, email, role]

namespace TokenService

variable {self : TokenService}

/-- Every way `verify_token` accepts a token. -/
theorem verifyToken_eq_some {token : String} {now : Instant} {data : TokenData} :
    self.verifyToken token now = .ok (some data) ↔
      ∃ payload tokenPayload, self.decode token now = .ok payload ∧
        TokenPayload.validate payload = .ok tokenPayload ∧
        data = ⟨some tokenPayload.email, some tokenPayload.role⟩ := by
  unfold verifyToken
  cases decoded : self.decode token now with
  | error error => cases error <;> simp
  | ok payload =>
      cases validated : TokenPayload.validate payload with
      | error fields => simp [validated]
      | ok tokenPayload => simp [validated, eq_comm]

/-- The two ways `verify_token` raises: a token of this service's key that has
not expired but whose payload is no `_TokenPayload`, and an exception of
`jwt.decode` from outside its own hierarchy. -/
def Raises (self : TokenService) (token : String) (now : Instant) : Prop :=
  (∃ payload fields, self.decode token now = .ok payload ∧
      TokenPayload.validate payload = .error fields) ∨
    ∃ error, self.decode token now = .error (.other error)

theorem verifyToken_error_iff {token : String} {now : Instant} :
    (∃ error, self.verifyToken token now = .error error) ↔ self.Raises token now := by
  unfold verifyToken Raises
  cases decoded : self.decode token now with
  | error error => cases error <;> simp
  | ok payload =>
      cases validated : TokenPayload.validate payload with
      | error fields => simp [validated]
      | ok tokenPayload => simp [validated]

/-- A minted token verifies to the data it was minted for, strictly before the
whole second of its expiry. -/
theorem verifyToken_createAccessToken (documented : self.jwt.Documented) {email : String}
    {role : UserRole} {token : String} {mintedAt : Instant}
    (minted : self.createAccessToken ⟨some email, some role⟩ mintedAt = .ok token)
    (now : Instant) :
    self.verifyToken token now =
      if now < self.rejectedFrom mintedAt then .ok (some ⟨some email, some role⟩)
      else .ok none := by
  have tokenEq : self.jwt.encode (TokenPayload.toEncode ⟨email, role⟩ (self.expire mintedAt))
      self.jwtConfig.secretKey self.jwtConfig.algorithm = token := by
    simpa [createAccessToken] using minted
  have decoded := documented.decode_encode ⟨email, role⟩ (self.expire mintedAt)
    self.jwtConfig.secretKey self.jwtConfig.algorithm now
  rw [tokenEq] at decoded
  unfold verifyToken decode rejectedFrom
  rw [decoded]
  by_cases expired : timestamp (self.expire mintedAt) * microsecondsPerSecond ≤ now
  · rw [if_pos expired, if_neg (not_lt.mpr expired)]
  · rw [if_neg expired, if_pos (not_le.mp expired)]
    simp only [TokenPayload.validate_toEncode]

/-- A minted token survives `split()` unchanged. -/
theorem createAccessToken_compact (documented : self.jwt.Documented) {data : TokenData}
    {token : String} {mintedAt : Instant}
    (minted : self.createAccessToken data mintedAt = .ok token) :
    token.toList ≠ [] ∧ ∀ character ∈ token.toList, isSpace character = false := by
  unfold createAccessToken at minted
  split at minted
  · rename_i email role _ _
    have tokenEq := Except.ok.inj minted
    rw [← tokenEq]
    exact documented.compact _ _ _
  · cases minted

/-- The whole second of the expiry is not after the expiry. -/
theorem rejectedFrom_le (self : TokenService) (mintedAt : Instant) :
    self.rejectedFrom mintedAt ≤ self.expire mintedAt :=
  Int.ediv_mul_le _ (by decide)

/-- A token that still verifies is younger than the configured lifetime. -/
theorem elapsed_lt_of_lt_rejectedFrom {mintedAt now : Instant}
    (early : now < self.rejectedFrom mintedAt) :
    now - mintedAt < self.jwtConfig.accessTokenExpireMinutes * microsecondsPerMinute := by
  have beforeExpiry : now < self.expire mintedAt := early.trans_le (self.rejectedFrom_le mintedAt)
  unfold expire at beforeExpiry
  exact Int.sub_left_lt_of_lt_add beforeExpiry

end TokenService

/-! ### An executable PyJWT

Tokens are written in unary over the encoded claims, key and algorithm. It
exists to run the model; no result depends on it. -/

namespace ReferenceJWT

local instance encodableString : Encodable String :=
  Encodable.ofLeftInverse (fun text => text.toList.map Char.toNat)
    (fun codes => String.ofList (codes.map Char.ofNat))
    (by
      intro text
      simp [Function.comp_def])

/-- The claims, key and algorithm a token carries. -/
abbrev Content := String × String × Int × String × String

def contentOf (payload : Payload) (key algorithm : String) : Content :=
  let text := fun name => match payload.lookup name with
    | some (.string value) => value
    | _ => ""
  let exp := match payload.lookup "exp" with
    | some (.number value) => value.num
    | _ => 0
  (text "email", text "role", exp, key, algorithm)

def encode (payload : Payload) (key algorithm : String) : String :=
  String.ofList (List.replicate (Encodable.encode (contentOf payload key algorithm) + 1) '1')

def decode (token key : String) (algorithms _required : List String) (now : Instant) :
    Except DecodeError Payload :=
  match (Encodable.decode (token.length - 1) : Option Content) with
  | none => .error .invalidTokenError
  | some (email, role, exp, signedWith, algorithm) =>
      if signedWith = key ∧ algorithm ∈ algorithms then
        if exp * microsecondsPerSecond ≤ now then .error .expiredSignatureError
        else .ok [("email", .string email), ("role", .string role), ("exp", .number exp)]
      else .error .invalidTokenError

end ReferenceJWT

def referenceJWT : PyJWT := ⟨ReferenceJWT.encode, ReferenceJWT.decode⟩

/-- It decodes what it encoded, whatever the two string claims say. -/
theorem referenceJWT_decode_encode (email role : String) (exp : Int) (key algorithm : String)
    (now : Instant) :
    referenceJWT.decode
        (referenceJWT.encode [("email", .string email), ("role", .string role),
          ("exp", .number exp)] key algorithm) key [algorithm] ["exp"] now =
      if exp * microsecondsPerSecond ≤ now then .error .expiredSignatureError
      else .ok [("email", .string email), ("role", .string role), ("exp", .number exp)] := by
  have content : ReferenceJWT.contentOf
      [("email", .string email), ("role", .string role), ("exp", .number exp)] key algorithm =
        (email, role, exp, key, algorithm) := rfl
  simp only [referenceJWT, ReferenceJWT.decode, ReferenceJWT.encode, content,
    String.length_ofList, List.length_replicate, Nat.add_sub_cancel, Encodable.encodek,
    true_and, List.mem_singleton, if_true]

theorem referenceJWT_documented : referenceJWT.Documented where
  decode_encode := by
    intro payload expire key algorithm now
    exact referenceJWT_decode_encode payload.email payload.role.value (timestamp expire) key
      algorithm now
  compact := by
    intro payload key algorithm
    constructor
    · simp [referenceJWT, ReferenceJWT.encode]
    · intro character member
      simp only [referenceJWT, ReferenceJWT.encode, String.toList_ofList] at member
      rw [List.eq_of_mem_replicate member]
      decide

/-- A token of this key over any two string claims. -/
theorem referenceJWT_signed (email role : String) (exp : Int) (key algorithm : String) :
    ∃ token : String, token.toList ≠ [] ∧
      (∀ character ∈ token.toList, isSpace character = false) ∧
      ∀ now, referenceJWT.decode token key [algorithm] ["exp"] now =
        if exp * microsecondsPerSecond ≤ now then .error .expiredSignatureError
        else .ok [("email", .string email), ("role", .string role), ("exp", .number exp)] := by
  obtain ⟨nonempty, solid⟩ := referenceJWT_documented.compact
    [("email", .string email), ("role", .string role), ("exp", .number exp)] key algorithm
  exact ⟨_, nonempty, solid, referenceJWT_decode_encode email role exp key algorithm⟩

def referenceTokenService : TokenService := ⟨referenceJWT, ⟨"secret", "HS256", 30⟩⟩

end DemoBase.Backend
