import DemoBase.Backend.Application

/-!
Owns what the application does with a bearer token that `verify_token` does not
accept. The verification runs in the outermost layer and before the path is
classified, so an exception it raises meets no layer that would answer for it.
-/

set_option autoImplicit false

namespace DemoBase.Backend

namespace Deployment

variable (self : Deployment) (request : Request)

/-- The selected rule lists the request's method. -/
def Protects : Prop :=
  ∃ rule, findMatchingPathConfig self.config.authMiddleware.pathAccess request.path = some rule ∧
    rule.Lists request

/-- The request carries no token that verifies. -/
def Unaccepted : Prop :=
  ∀ tokenData, (self.authMiddleware none).userTokenData request self.world.now ≠
    .ok (some tokenData)

/-- Refused with 401 where the method is protected, forwarded without token data
elsewhere, and in no case answered by an exception. -/
structure HandledAlike : Prop where
  refused : self.Protects request →
    ∃ detail, self.createApp none request none = .ok ⟨401, .detail detail, none⟩
  forwarded : ¬ self.Protects request →
    (self.authMiddleware none).dispatch request self.world.now = .ok (.forward none) ∧
      self.createApp none request none = self.innerApp none request none
  contained : ∃ response, self.createApp none request none = .ok response

/-- Verifying the request's token raises. -/
def VerificationRaises : Prop :=
  ∃ token, extractTokenFromHeader request = some token ∧
    (self.libraries.tokenService self.config.jwt).Raises token self.world.now

variable {self request}

theorem verificationRaises_iff :
    self.VerificationRaises request ↔
      ∃ error, (self.authMiddleware none).userTokenData request self.world.now =
        .error error := by
  unfold VerificationRaises AuthMiddleware.userTokenData
  cases extracted : extractTokenFromHeader request with
  | none => simp
  | some token =>
      simp only [Option.some.injEq, exists_eq_left']
      exact TokenService.verifyToken_error_iff.symm

/-- An exception of the verification leaves the whole stack. -/
theorem createApp_of_verificationRaises (raises : self.VerificationRaises request) :
    ∃ error, self.createApp none request none = .error error := by
  rcases verificationRaises_iff.mp raises with ⟨error, raised⟩
  refine ⟨error, ?_⟩
  rw [createApp_eq]
  simp only [AuthMiddleware.call, AuthMiddleware.dispatch, raised]

/-- Without an exception the decision is the one for no token data. -/
theorem dispatch_of_unaccepted (unaccepted : self.Unaccepted request)
    (verified : ¬ self.VerificationRaises request) :
    (self.Protects request →
        ∃ detail, (self.authMiddleware none).dispatch request self.world.now =
          .ok (.unauthorized detail)) ∧
      (¬ self.Protects request →
        (self.authMiddleware none).dispatch request self.world.now = .ok (.forward none)) := by
  have noData : (self.authMiddleware none).userTokenData request self.world.now = .ok none := by
    cases outcome : (self.authMiddleware none).userTokenData request self.world.now with
    | error error => exact absurd (verificationRaises_iff.mpr ⟨error, outcome⟩) verified
    | ok tokenData =>
        cases tokenData with
        | none => rfl
        | some data => exact absurd outcome (unaccepted data)
  have pathAccess : (self.authMiddleware none).config.pathAccess =
      self.config.authMiddleware.pathAccess := rfl
  unfold AuthMiddleware.dispatch
  rw [noData, pathAccess]
  constructor
  · intro protects
    obtain ⟨rule, selected, listed⟩ := protects
    have denied : ¬ rule.Admits request none := by
      intro admits
      rcases admits listed with ⟨data, impossible, -⟩
      cases impossible
    simp only [selected, enforce_of_not_admits denied, refusal]
    cases extractTokenFromHeader request with
    | none => exact ⟨_, rfl⟩
    | some token => exact ⟨_, rfl⟩
  · intro unprotected
    cases selected : findMatchingPathConfig self.config.authMiddleware.pathAccess
      request.path with
    | none => rfl
    | some rule =>
        have unlisted : ¬ rule.Lists request := fun listed =>
          unprotected ⟨rule, selected, listed⟩
        simp only [enforce, if_pos unlisted]

/-- An unaccepted token is handled like every other one exactly when verifying it
does not raise. -/
theorem handledAlike_iff (unaccepted : self.Unaccepted request) :
    self.HandledAlike request ↔ ¬ self.VerificationRaises request := by
  constructor
  · intro alike raises
    rcases createApp_of_verificationRaises raises with ⟨error, escaped⟩
    obtain ⟨-, -, response, answered⟩ := alike
    rw [escaped] at answered
    cases answered
  · intro verified
    rcases dispatch_of_unaccepted unaccepted verified with ⟨whenProtected, otherwise⟩
    have refused : self.Protects request →
        ∃ detail, self.createApp none request none = .ok ⟨401, .detail detail, none⟩ := by
      intro protects
      rcases whenProtected protects with ⟨detail, decision⟩
      refine ⟨detail, ?_⟩
      rw [createApp_eq]
      simp only [AuthMiddleware.call, decision]
    have forwarded : ¬ self.Protects request →
        (self.authMiddleware none).dispatch request self.world.now = .ok (.forward none) ∧
          self.createApp none request none = self.innerApp none request none := by
      intro unprotected
      have decision := otherwise unprotected
      refine ⟨decision, ?_⟩
      rw [createApp_eq]
      simp only [AuthMiddleware.call, decision]
    refine ⟨refused, forwarded, ?_⟩
    by_cases protects : self.Protects request
    · rcases refused protects with ⟨detail, answered⟩
      exact ⟨_, answered⟩
    · rw [(forwarded protects).2]
      exact self.innerApp_ok none request none

/-- An expired token is read and verified, and handled like every other unaccepted one. -/
theorem handledAlike_expired :
    ∃ request token, request.path = "/api/v1/users" ∧
      extractTokenFromHeader request = some token ∧
      referenceTokenService.verifyToken token referenceDeployment.world.now = .ok none ∧
      referenceDeployment.HandledAlike request := by
  obtain ⟨token, nonempty, solid, decodes⟩ :=
    referenceJWT_signed "user@example.com" "admin" 0 "secret" "HS256"
  let request : Request :=
    { method := "GET", path := "/api/v1/users", authorization := some ("Bearer " ++ token) }
  have extracted : extractTokenFromHeader request = some token :=
    extractTokenFromHeader_bearer rfl nonempty solid
  have expired : referenceTokenService.decode token referenceDeployment.world.now =
      .error .expiredSignatureError := by
    have past : 0 * microsecondsPerSecond ≤ referenceDeployment.world.now := by decide
    exact (decodes _).trans (if_pos past)
  have verified : referenceTokenService.verifyToken token referenceDeployment.world.now =
      .ok none := by
    unfold TokenService.verifyToken
    rw [expired]
  refine ⟨request, token, rfl, extracted, verified, (handledAlike_iff ?_).mpr ?_⟩
  · intro tokenData accepted
    unfold AuthMiddleware.userTokenData at accepted
    rw [extracted] at accepted
    cases verified.symm.trans accepted
  · intro raises
    obtain ⟨other, sameToken, raised⟩ := raises
    obtain rfl := Option.some.inj (extracted.symm.trans sameToken)
    obtain ⟨error, escapes⟩ := TokenService.verifyToken_error_iff.mpr raised
    cases verified.symm.trans escapes

/-- A signed, unexpired token with an unknown role turns a public path into an
internal server error. -/
theorem handledAlike_fails_on_unknown_role :
    ∃ request, request.path = "/health" ∧ referenceDeployment.Unaccepted request ∧
      ¬ referenceDeployment.Protects request ∧
      referenceDeployment.respond none request = ⟨500, .plain "Internal Server Error", none⟩ ∧
      ¬ referenceDeployment.HandledAlike request := by
  obtain ⟨token, nonempty, solid, decodes⟩ :=
    referenceJWT_signed "user@example.com" "superuser" 1800 "secret" "HS256"
  let request : Request :=
    { method := "GET", path := "/health", authorization := some ("Bearer " ++ token) }
  have extracted : extractTokenFromHeader request = some token :=
    extractTokenFromHeader_bearer rfl nonempty solid
  have decoded := decodes 0
  rw [if_neg (by decide)] at decoded
  have raises : referenceDeployment.VerificationRaises request :=
    ⟨token, extracted, Or.inl ⟨_, ["role"], decoded, by rfl⟩⟩
  rcases createApp_of_verificationRaises raises with ⟨error, escaped⟩
  refine ⟨request, rfl, ?_, ?_, ?_, ?_⟩
  · intro tokenData accepted
    rcases verificationRaises_iff.mp raises with ⟨raised, outcome⟩
    rw [accepted] at outcome
    cases outcome
  · intro protects
    obtain ⟨rule, selected, -⟩ := protects
    have unmatched : findMatchingPathConfig defaultPathAccess "/health" = none := by decide
    cases unmatched.symm.trans selected
  · unfold respond
    rw [escaped]
    rfl
  · intro alike
    obtain ⟨-, -, response, answered⟩ := alike
    rw [escaped] at answered
    cases answered

end Deployment

end DemoBase.Backend
