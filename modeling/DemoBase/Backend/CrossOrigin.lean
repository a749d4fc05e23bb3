import DemoBase.Backend.Application

/-!
Owns which responses a browser on an allowed origin can read. The CORS layer adds
its header to what passes through it from inside, and the layers outside it answer
by themselves: the auth middleware refuses, the error middleware answers for an
exception, and the server answers for one that left the whole stack.
-/

set_option autoImplicit false

namespace DemoBase.Backend

/-- A CORS preflight, as the CORS layer recognises it. -/
structure Request.IsPreflight (request : Request) : Prop where
  options : request.method = "OPTIONS"
  cors : request.origin ≠ none ∧ request.accessControlRequestMethod ≠ none

instance decidableIsPreflight (request : Request) : Decidable request.IsPreflight :=
  decidable_of_iff (request.method = "OPTIONS" ∧ request.origin ≠ none ∧
      request.accessControlRequestMethod ≠ none)
    ⟨fun parts => ⟨parts.1, parts.2⟩, fun preflight => ⟨preflight.options, preflight.cors⟩⟩

/-- The exception is none that FastAPI turns into a response by itself. -/
def PyException.Unhandled (error : PyException) : Prop :=
  ∀ httpError, error ≠ .httpException httpError

/-! ### The layers -/

/-- No rule lists `OPTIONS`. -/
theorem not_lists_options {request : Request} (options : request.method = "OPTIONS")
    (rule : PathAccessConfig) : ¬ rule.Lists request := by
  intro listed
  rcases List.mem_map.mp listed with ⟨method, -, value⟩
  rw [options] at value
  cases method <;> simp [HttpMethod.value] at value

/-- `dispatch` forwards exactly what was verified and admitted. -/
theorem AuthMiddleware.dispatch_eq_forward {self : AuthMiddleware} {request : Request}
    {now : Instant} {tokenData : Option TokenData} :
    self.dispatch request now = .ok (.forward tokenData) ↔
      self.userTokenData request now = .ok tokenData ∧
        ∀ rule, findMatchingPathConfig self.config.pathAccess request.path = some rule →
          rule.Admits request tokenData := by
  unfold dispatch
  cases verified : self.userTokenData request now with
  | error error => simp
  | ok data =>
      cases selected : findMatchingPathConfig self.config.pathAccess request.path with
      | none => simp
      | some rule =>
          simp only [Except.ok.injEq, Option.some.injEq, forall_eq']
          rw [enforce_eq_forward (verified_has_token verified)]
          constructor
          · rintro ⟨admitted, rfl⟩
            exact ⟨rfl, admitted⟩
          · rintro ⟨rfl, admitted⟩
            exact ⟨admitted, rfl⟩

/-- Whatever the rules are, an `OPTIONS` request is forwarded unless verifying its
token raises. -/
theorem AuthMiddleware.dispatch_of_options (self : AuthMiddleware) {request : Request}
    (options : request.method = "OPTIONS") (now : Instant) :
    (∃ error, self.dispatch request now = .error error) ∨
      ∃ tokenData, self.dispatch request now = .ok (.forward tokenData) := by
  cases verified : self.userTokenData request now with
  | error error =>
      left
      exact ⟨error, by simp only [dispatch, verified]⟩
  | ok tokenData =>
      right
      refine ⟨tokenData, dispatch_eq_forward.mpr ⟨verified, fun rule _ => ?_⟩⟩
      intro listed
      exact absurd listed (not_lists_options options rule)

namespace CORSMiddleware

variable (self : CORSMiddleware)

theorem isSome_simpleAllowOrigin {origin : String} (allowed : origin ∈ self.allowOrigins) :
    self.simpleAllowOrigin origin ≠ none := by
  unfold simpleAllowOrigin
  by_cases all : self.allowAllOrigins = true
  · rw [if_pos all]
    split <;> simp
  · rw [if_neg all, if_pos allowed]
    simp

theorem preflightResponse_statusCode (origin requestedMethod : String) :
    (self.preflightResponse origin requestedMethod).statusCode ≠ 401 := by
  unfold preflightResponse
  dsimp only
  generalize (if self.isAllowedOrigin origin = true then [] else ["origin"]) ++ _ = failures
  by_cases fine : failures = []
  · rw [if_pos fine]
    simp
  · rw [if_neg fine]
    simp

/-- An allowed origin finds itself in the preflight answer. -/
theorem preflightResponse_allowOrigin {origin : String} (requestedMethod : String)
    (allowed : origin ∈ self.allowOrigins) :
    (self.preflightResponse origin requestedMethod).allowOrigin ≠ none := by
  have isAllowed : self.isAllowedOrigin origin = true := by
    simp [isAllowedOrigin, allowed]
  unfold preflightResponse
  rw [isAllowed]
  dsimp only
  generalize (if true = true then [] else ["origin"]) ++ _ = failures
  by_cases any : (self.allowAllOrigins && !self.allowCredentials) = true
  · rw [if_pos any]
    split <;> simp
  · rw [if_neg any]
    split <;> simp

/-- A preflight never reaches the application inside. -/
theorem call_of_preflight (app : App) {request : Request} (preflight : request.IsPreflight)
    (userTokenData : Option TokenData) :
    ∃ origin requestedMethod, request.origin = some origin ∧
      self.call app request userTokenData =
        .ok (self.preflightResponse origin requestedMethod) := by
  rcases Option.ne_none_iff_exists'.mp preflight.cors.1 with ⟨origin, hasOrigin⟩
  rcases Option.ne_none_iff_exists'.mp preflight.cors.2 with ⟨requestedMethod, requested⟩
  refine ⟨origin, requestedMethod, hasOrigin, ?_⟩
  unfold call
  simp only [hasOrigin, requested, preflight.options, if_true]

/-- Any other request with an origin gets the header on a response from inside. -/
theorem call_of_not_preflight (app : App) {request : Request} {origin : String}
    (hasOrigin : request.origin = some origin) (notPreflight : ¬ request.IsPreflight)
    (userTokenData : Option TokenData) :
    self.call app request userTokenData =
      (app request userTokenData).map fun response =>
        { response with allowOrigin := self.simpleAllowOrigin origin } := by
  unfold call
  cases requested : request.accessControlRequestMethod with
  | none => simp only [hasOrigin]
  | some requestedMethod =>
      have notOptions : request.method ≠ "OPTIONS" := fun options =>
        notPreflight ⟨options, by simp [hasOrigin], by simp [requested]⟩
      simp only [hasOrigin, if_neg notOptions]

end CORSMiddleware

/-- An exception FastAPI does not handle passes its layer. -/
theorem exceptionMiddleware_unhandled {app : App} {request : Request}
    {userTokenData : Option TokenData} {error : PyException} (unhandled : error.Unhandled)
    (raised : app request userTokenData = .error error) :
    exceptionMiddleware app request userTokenData = .error error := by
  unfold exceptionMiddleware
  rw [raised]
  cases error with
  | httpException httpError => exact absurd rfl (unhandled httpError)
  | _ => rfl

theorem exceptionMiddleware_ok {app : App} {request : Request} {userTokenData : Option TokenData}
    (handled : ∀ error, app request userTokenData = .error error → ¬ error.Unhandled) :
    ∃ response, exceptionMiddleware app request userTokenData = .ok response := by
  unfold exceptionMiddleware
  cases outcome : app request userTokenData with
  | ok response => exact ⟨response, rfl⟩
  | error error =>
      cases error with
      | httpException httpError => exact ⟨_, rfl⟩
      | _ => exact absurd (by intro httpError; simp) (handled _ outcome)

/-- What the error middleware answers with carries no header of its own. -/
theorem ErrorMiddlewareConfig.allowOrigin_of_error (self : ErrorMiddlewareConfig) {app : App}
    {request : Request} {userTokenData : Option TokenData} {error : PyException}
    (raised : app request userTokenData = .error error) :
    ∃ response, self.dispatch app request userTokenData = .ok response ∧
      response.allowOrigin = none := by
  unfold dispatch
  rw [raised]
  cases error <;> exact ⟨_, rfl, rfl⟩

theorem ErrorMiddlewareConfig.dispatch_of_ok (self : ErrorMiddlewareConfig) {app : App}
    {request : Request} {userTokenData : Option TokenData} {response : Response}
    (answered : app request userTokenData = .ok response) :
    self.dispatch app request userTokenData = .ok response := by
  unfold dispatch
  rw [answered]

/-! ### The stack -/

namespace Deployment

variable (self : Deployment) (fault : Fault) (request : Request)

/-- The request is made from an origin the configuration allows. -/
def FromAllowedOrigin : Prop :=
  ∃ origin, request.origin = some origin ∧ origin ∈ self.config.origins

/-- The response can be read by a browser on an allowed origin, and a preflight is
not refused for want of a token. -/
structure CrossOriginReadable : Prop where
  header : self.FromAllowedOrigin request → (self.respond fault request).allowOrigin ≠ none
  preflight : request.IsPreflight → (self.respond fault request).statusCode ≠ 401

/-- Verifying the token does not raise, the selected rule admits what it holds, and
unless the request is a preflight its handler raises nothing FastAPI leaves
unhandled. -/
def AnsweredInside : Prop :=
  ∃ tokenData, (self.authMiddleware fault).userTokenData request self.world.now = .ok tokenData ∧
    (∀ rule, findMatchingPathConfig self.config.authMiddleware.pathAccess request.path =
      some rule → rule.Admits request tokenData) ∧
    (request.IsPreflight ∨
      ∀ error, self.router fault request tokenData = .error error → ¬ error.Unhandled)

variable {self fault request}

/-- A request that is not forwarded is answered outside the CORS layer. -/
theorem respond_of_not_forwarded
    (refused : ∀ tokenData, (self.authMiddleware fault).dispatch request self.world.now ≠
      .ok (.forward tokenData)) :
    (self.respond fault request).allowOrigin = none := by
  unfold respond
  rw [createApp_eq]
  unfold AuthMiddleware.call
  cases dispatched : (self.authMiddleware fault).dispatch request self.world.now with
  | error error => rfl
  | ok decision =>
      cases decision with
      | unauthorized detail => rfl
      | forward tokenData => exact absurd dispatched (refused tokenData)

theorem respond_of_forwarded {tokenData : Option TokenData} {response : Response}
    (forwarded : (self.authMiddleware fault).dispatch request self.world.now =
      .ok (.forward tokenData))
    (answered : self.innerApp fault request tokenData = .ok response) :
    self.respond fault request = response := by
  unfold respond
  rw [createApp_eq]
  simp only [AuthMiddleware.call, forwarded, answered, serverErrorMiddleware]

/-- The application behind the auth middleware is readable unless an unhandled
exception of the handler passes the CORS layer. -/
theorem innerApp_allowOrigin (allowed : self.FromAllowedOrigin request)
    (tokenData : Option TokenData) :
    ∃ response, self.innerApp fault request tokenData = .ok response ∧
      (response.allowOrigin ≠ none ↔ request.IsPreflight ∨
        ∀ error, self.router fault request tokenData = .error error → ¬ error.Unhandled) := by
  obtain ⟨origin, hasOrigin, inOrigins⟩ := allowed
  have listed : origin ∈ self.cors.allowOrigins := inOrigins
  unfold innerApp
  by_cases preflight : request.IsPreflight
  · rcases self.cors.call_of_preflight (exceptionMiddleware (self.router fault)) preflight
      tokenData with ⟨same, requestedMethod, sameOrigin, answered⟩
    obtain rfl : origin = same := Option.some.inj (hasOrigin.symm.trans sameOrigin)
    refine ⟨_, self.config.errorMiddleware.dispatch_of_ok answered, ?_⟩
    exact iff_of_true (self.cors.preflightResponse_allowOrigin requestedMethod listed)
      (Or.inl preflight)
  · have through := self.cors.call_of_not_preflight (exceptionMiddleware (self.router fault))
      hasOrigin preflight tokenData
    by_cases handled : ∀ error, self.router fault request tokenData = .error error →
        ¬ error.Unhandled
    · rcases exceptionMiddleware_ok handled with ⟨response, answered⟩
      rw [answered] at through
      refine ⟨_, self.config.errorMiddleware.dispatch_of_ok through, ?_⟩
      exact iff_of_true (self.cors.isSome_simpleAllowOrigin listed) (Or.inr handled)
    · have escaping := handled
      push Not at escaping
      obtain ⟨error, raised, unhandled⟩ := escaping
      rw [exceptionMiddleware_unhandled unhandled raised] at through
      rcases self.config.errorMiddleware.allowOrigin_of_error through with
        ⟨response, answered, bare⟩
      refine ⟨response, answered, ?_⟩
      exact iff_of_false (fun header => header bare) (by simp [preflight, handled])

/-- No rule list makes the application answer a preflight with 401. -/
theorem respond_preflight (preflight : request.IsPreflight) :
    (self.respond fault request).statusCode ≠ 401 := by
  rcases AuthMiddleware.dispatch_of_options (self.authMiddleware fault) preflight.options
    self.world.now with ⟨error, raised⟩ | ⟨tokenData, forwarded⟩
  · unfold respond
    rw [createApp_eq]
    simp [AuthMiddleware.call, raised, serverErrorMiddleware]
  · rcases self.cors.call_of_preflight (exceptionMiddleware (self.router fault)) preflight
      tokenData with ⟨origin, requestedMethod, -, answered⟩
    have inside : self.innerApp fault request tokenData =
        .ok (self.cors.preflightResponse origin requestedMethod) :=
      self.config.errorMiddleware.dispatch_of_ok answered
    rw [respond_of_forwarded forwarded inside]
    exact self.cors.preflightResponse_statusCode origin requestedMethod

/-- From an allowed origin, a response is readable exactly when it was made inside
the CORS layer. -/
theorem header_iff_answeredInside (allowed : self.FromAllowedOrigin request) :
    (self.respond fault request).allowOrigin ≠ none ↔ self.AnsweredInside fault request := by
  constructor
  · intro header
    have someForwarded : ∃ tokenData, (self.authMiddleware fault).dispatch request
        self.world.now = .ok (.forward tokenData) := by
      by_contra refused
      push Not at refused
      exact header (respond_of_not_forwarded refused)
    obtain ⟨tokenData, forwarded⟩ := someForwarded
    rcases innerApp_allowOrigin allowed tokenData with ⟨response, answered, readable⟩
    rw [respond_of_forwarded forwarded answered] at header
    rcases AuthMiddleware.dispatch_eq_forward.mp forwarded with ⟨verified, admitted⟩
    exact ⟨tokenData, verified, admitted, readable.mp header⟩
  · intro inside
    obtain ⟨tokenData, verified, admitted, handled⟩ := inside
    have forwarded := AuthMiddleware.dispatch_eq_forward.mpr ⟨verified, admitted⟩
    rcases innerApp_allowOrigin allowed tokenData with ⟨response, answered, readable⟩
    rw [respond_of_forwarded forwarded answered]
    exact readable.mpr handled

/-- A response is readable across origins, and a preflight not refused, exactly
when a request from an allowed origin is answered inside the CORS layer. -/
theorem crossOriginReadable_iff (self : Deployment) (fault : Fault) (request : Request) :
    self.CrossOriginReadable fault request ↔
      (self.FromAllowedOrigin request → self.AnsweredInside fault request) := by
  constructor
  · intro readable allowed
    obtain ⟨header, -⟩ := readable
    exact (header_iff_answeredInside allowed).mp (header allowed)
  · intro inside
    exact ⟨fun allowed => (header_iff_answeredInside allowed).mpr (inside allowed),
      respond_preflight⟩

private def localOrigin : Deployment :=
  { referenceDeployment with
    config := { referenceDeployment.config with origins := ["http://localhost:4200"] } }

private def listUsersRequest : Request where
  method := "GET"
  path := "/api/v1/users"
  origin := some "http://localhost:4200"

/-- The 401 for a missing token has no CORS header, so the frontend cannot read it. -/
theorem crossOriginReadable_fails_on_401 :
    ((localOrigin.respond none listUsersRequest).statusCode = 401 ∧
        localOrigin.FromAllowedOrigin listUsersRequest) ∧
      ¬ ∀ (self : Deployment) (fault : Fault) (request : Request),
        self.CrossOriginReadable fault request := by
  have allowed : localOrigin.FromAllowedOrigin listUsersRequest :=
    ⟨"http://localhost:4200", rfl, List.mem_singleton.mpr rfl⟩
  refine ⟨⟨by rfl, allowed⟩, ?_⟩
  intro readable
  obtain ⟨header, -⟩ := readable localOrigin none listUsersRequest
  exact header allowed (by rfl)

end Deployment

end DemoBase.Backend
