import DemoBase.Backend.AuthService
import DemoBase.Foundations.Selection

/-!
Owns `AuthMiddleware`: reading the bearer token, selecting the access rule of a
path, and the decision of `dispatch`. In the source every branch of `dispatch`
ends in a 401 response or in `call_next`, so its outcome is a `Decision`;
forwarding carries `request.state.user_token_data`.
-/

set_option autoImplicit false

namespace DemoBase.Backend

open DemoBase.Foundations.Selection

/-- An HTTP request as the middlewares and routes read it. `path` is both
`request.url.path` and the path the router matches, which differ only where the `Host`
header brings a path of its own. `fields` are the string fields of a JSON body. -/
structure Request where
  method : String
  path : String
  queryString : String := ""
  authorization : Option String := none
  origin : Option String := none
  accessControlRequestMethod : Option String := none
  fields : List (String × String) := []
deriving DecidableEq, Repr

inductive Decision where
  | forward (userTokenData : Option TokenData)
  | unauthorized (detail : String)
deriving DecidableEq, Repr

structure AuthMiddleware where
  config : AuthMiddlewareConfig
  tokenService : TokenService

def pathMatches (requestPath configuredPath : String) : Bool :=
  requestPath == configuredPath || (configuredPath ++ "/").toList.isPrefixOf requestPath.toList

def extractTokenFromHeader (request : Request) : Option String :=
  match request.authorization with
  | none => none
  | some authHeader =>
      match split authHeader with
      | [scheme, token] => if lower scheme = "bearer" then some token else none
      | _ => none

def isRoleAllowed (userRole : Option UserRole) (allowedRoles : List UserRole) : Bool :=
  match userRole with
  | none => false
  | some role => role ∈ allowedRoles

/-- `max(matches, key=len(path))`: the first of the longest matching entries. -/
def findMatchingPathConfig (pathAccess : List PathAccessConfig) (requestPath : String) :
    Option PathAccessConfig :=
  (pathAccess.filter fun pathConfig => pathMatches requestPath pathConfig.path).argmax
    fun pathConfig => pathConfig.path.length

/-- The rule protects the request's method. -/
def PathAccessConfig.Lists (pathConfig : PathAccessConfig) (request : Request) : Prop :=
  request.method ∈ pathConfig.methods.map HttpMethod.value

instance (pathConfig : PathAccessConfig) (request : Request) :
    Decidable (pathConfig.Lists request) :=
  inferInstanceAs (Decidable (_ ∈ _))

theorem default_selects_usersMe :
    findMatchingPathConfig defaultPathAccess "/api/v1/users/me" = some usersMeRule := by decide

theorem default_selects_users :
    findMatchingPathConfig defaultPathAccess "/api/v1/users" = some usersRule := by decide

/-- What `dispatch` does once the rule is selected. -/
def enforce (request : Request) (token : Option String) (userTokenData : Option TokenData)
    (matchingConfig : PathAccessConfig) : Decision :=
  if ¬ matchingConfig.Lists request then .forward userTokenData
  else
    match token, userTokenData with
    | none, _ => .unauthorized "Authentication required"
    | some _, none => .unauthorized "Invalid or expired token"
    | some _, some tokenData =>
        if isRoleAllowed tokenData.role matchingConfig.allowedRoles then .forward userTokenData
        else .unauthorized "Insufficient permissions"

namespace AuthMiddleware

/-- The value `request.state.user_token_data` gets; verification may raise. -/
def userTokenData (self : AuthMiddleware) (request : Request) (now : Instant) :
    Except PyException (Option TokenData) :=
  match extractTokenFromHeader request with
  | none => .ok none
  | some token => self.tokenService.verifyToken token now

def dispatch (self : AuthMiddleware) (request : Request) (now : Instant) :
    Except PyException Decision :=
  match self.userTokenData request now with
  | .error error => .error error
  | .ok tokenData =>
      match findMatchingPathConfig self.config.pathAccess request.path with
      | none => .ok (.forward tokenData)
      | some matchingConfig =>
          .ok (enforce request (extractTokenFromHeader request) tokenData matchingConfig)

end AuthMiddleware

/-! ### Reading `dispatch` -/

/-- The rule lets a request with this verified token data through. -/
def PathAccessConfig.Admits (pathConfig : PathAccessConfig) (request : Request)
    (userTokenData : Option TokenData) : Prop :=
  pathConfig.Lists request →
    ∃ tokenData, userTokenData = some tokenData ∧
      isRoleAllowed tokenData.role pathConfig.allowedRoles = true

theorem AuthMiddleware.userTokenData_of_no_token {self : AuthMiddleware} {request : Request}
    (absent : extractTokenFromHeader request = none) (now : Instant) :
    self.userTokenData request now = .ok none := by
  simp only [userTokenData, absent]

/-- Verified data only comes from a token in the header. -/
theorem AuthMiddleware.token_of_userTokenData {self : AuthMiddleware} {request : Request}
    {now : Instant} {tokenData : TokenData}
    (verified : self.userTokenData request now = .ok (some tokenData)) :
    ∃ token, extractTokenFromHeader request = some token ∧
      self.tokenService.verifyToken token now = .ok (some tokenData) := by
  unfold userTokenData at verified
  cases extracted : extractTokenFromHeader request with
  | none => simp [extracted] at verified
  | some token => exact ⟨token, rfl, by simpa [extracted] using verified⟩

section Enforce

variable {request : Request} {token : Option String} {tokenData : Option TokenData}

/-- An enforced rule that admits the verified data forwards it. -/
theorem enforce_of_admits {rule : PathAccessConfig} (verified : tokenData ≠ none → token ≠ none)
    (admitted : rule.Admits request tokenData) :
    enforce request token tokenData rule = .forward tokenData := by
  unfold enforce
  by_cases listed : rule.Lists request
  · rcases admitted listed with ⟨data, rfl, allowed⟩
    rcases Option.ne_none_iff_exists'.mp (verified (by simp)) with ⟨present, rfl⟩
    simp only [listed, not_true_eq_false, if_false, allowed, if_true]
  · rw [if_pos listed]

/-- The 401 a refused request gets; the reason depends on the token alone. -/
def refusal (token : Option String) (tokenData : Option TokenData) : Decision :=
  match token, tokenData with
  | none, _ => .unauthorized "Authentication required"
  | some _, none => .unauthorized "Invalid or expired token"
  | some _, some _ => .unauthorized "Insufficient permissions"

theorem enforce_of_not_admits {rule : PathAccessConfig}
    (refused : ¬ rule.Admits request tokenData) :
    enforce request token tokenData rule = refusal token tokenData := by
  have listed : rule.Lists request := by
    by_contra unlisted
    exact refused fun listed => absurd listed unlisted
  unfold enforce refusal
  rw [if_neg (not_not.mpr listed)]
  cases token with
  | none => rfl
  | some token =>
      cases tokenData with
      | none => rfl
      | some data =>
          have denied : ¬ isRoleAllowed data.role rule.allowedRoles = true := fun allowed =>
            refused fun _ => ⟨data, rfl, allowed⟩
          simp only [if_neg denied]

theorem enforce_eq_forward {rule : PathAccessConfig} {forwarded : Option TokenData}
    (verified : tokenData ≠ none → token ≠ none) :
    enforce request token tokenData rule = .forward forwarded ↔
      rule.Admits request tokenData ∧ forwarded = tokenData := by
  constructor
  · intro outcome
    by_cases admitted : rule.Admits request tokenData
    · rw [enforce_of_admits verified admitted] at outcome
      exact ⟨admitted, (Decision.forward.inj outcome).symm⟩
    · rw [enforce_of_not_admits admitted] at outcome
      unfold refusal at outcome
      split at outcome <;> cases outcome
  · rintro ⟨admitted, rfl⟩
    exact enforce_of_admits verified admitted

/-- Two rules decide alike exactly when both admit the request or neither does. -/
theorem enforce_eq_enforce {left right : PathAccessConfig}
    (verified : tokenData ≠ none → token ≠ none) :
    enforce request token tokenData left = enforce request token tokenData right ↔
      (left.Admits request tokenData ↔ right.Admits request tokenData) := by
  constructor
  · intro same
    constructor
    · intro admitted
      rw [enforce_of_admits verified admitted] at same
      exact ((enforce_eq_forward verified).mp same.symm).1
    · intro admitted
      rw [enforce_of_admits verified admitted] at same
      exact ((enforce_eq_forward verified).mp same).1
  · intro agree
    by_cases admitted : left.Admits request tokenData
    · rw [enforce_of_admits verified admitted, enforce_of_admits verified (agree.mp admitted)]
    · rw [enforce_of_not_admits admitted,
        enforce_of_not_admits fun other => admitted (agree.mpr other)]

end Enforce

namespace AuthMiddleware

variable {self : AuthMiddleware} {request : Request} {now : Instant}

/-- A request without a bearer token is never refused by the verification. -/
theorem verified_has_token {tokenData : Option TokenData}
    (verified : self.userTokenData request now = .ok tokenData) :
    tokenData ≠ none → extractTokenFromHeader request ≠ none := by
  intro present absent
  rw [userTokenData_of_no_token absent] at verified
  exact present (Except.ok.inj verified).symm

/-- What a forwarded request with a rule listing its method has shown. -/
theorem dispatch_forward_listed {rule : PathAccessConfig} {forwarded : Option TokenData}
    (selected : findMatchingPathConfig self.config.pathAccess request.path = some rule)
    (listed : rule.Lists request)
    (dispatched : self.dispatch request now = .ok (.forward forwarded)) :
    ∃ token tokenData, extractTokenFromHeader request = some token ∧
      self.tokenService.verifyToken token now = .ok (some tokenData) ∧
      forwarded = some tokenData ∧ isRoleAllowed tokenData.role rule.allowedRoles = true := by
  unfold dispatch at dispatched
  cases verified : self.userTokenData request now with
  | error error => simp [verified] at dispatched
  | ok data =>
      simp only [verified, selected, Except.ok.injEq] at dispatched
      rcases (enforce_eq_forward (verified_has_token verified)).mp dispatched with ⟨admitted, rfl⟩
      rcases admitted listed with ⟨tokenData, rfl, allowed⟩
      rcases token_of_userTokenData verified with ⟨token, extracted, accepted⟩
      exact ⟨token, tokenData, extracted, accepted, rfl, allowed⟩

/-- Without a bearer token the decision depends on the selected rule alone. -/
theorem dispatch_of_no_token (absent : extractTokenFromHeader request = none) :
    self.dispatch request now =
      match findMatchingPathConfig self.config.pathAccess request.path with
      | none => .ok (.forward none)
      | some rule =>
          if rule.Lists request then .ok (.unauthorized "Authentication required")
          else .ok (.forward none) := by
  unfold dispatch
  rw [userTokenData_of_no_token absent, absent]
  cases findMatchingPathConfig self.config.pathAccess request.path with
  | none => rfl
  | some rule =>
      by_cases listed : rule.Lists request
      · simp [enforce, listed]
      · simp [enforce, listed]

end AuthMiddleware

end DemoBase.Backend
