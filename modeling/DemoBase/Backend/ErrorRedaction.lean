import DemoBase.Backend.Application

/-!
Owns what a client learns about an internal failure when
`return_detailed_internal_errors` is off. A failure is redacted when it reaches
the error middleware as an exception; the two `except` clauses that turn it into
an HTTP exception make the framework answer before the error middleware can.
-/

set_option autoImplicit false

namespace DemoBase.Backend

open DemoBase.Foundations

/-! ### The except clauses around each call -/

/-- The `except` clause of `add_new_user` encloses two calls. -/
def tryHandler (site : Site) : PyException → PyException :=
  match site with
  | .add => AuthService.wrapCreateError
  | .commit => AuthService.wrapCreateError
  | _ => id

/-- Every call of a route is inside the session scope. -/
def routeHandler (site : Site) : PyException → PyException := sessionScope ∘ tryHandler site

theorem addNewUserCalls_handledBy (self : AuthService) (world : World)
    (user : RegisterRequestDto) : (self.addNewUserCalls world user).HandledBy tryHandler := by
  unfold AuthService.addNewUserCalls
  apply Scripted.HandledBy.andThen (Scripted.handledBy_perform _ rfl)
  intro encryptedPassword
  apply Scripted.HandledBy.andThen (Scripted.handledBy_perform _ rfl)
  intro existing
  cases existing with
  | some other => exact Scripted.handledBy_ofExcept _
  | none =>
      apply Scripted.HandledBy.andThen
      · -- The two calls of the `try` block are plain inside it and wrapped around it.
        have plain : ((Scripted.perform Site.add (Except.ok ())).andThen fun _ =>
            Scripted.perform Site.commit (world.users.insert
              ((⟨user.email, encryptedPassword, .user⟩ : PendingUser).flush world.generated)) :
              Handling UserTable).HandledBy fun _ => id :=
          Scripted.HandledBy.andThen (Scripted.handledBy_perform _ rfl)
            fun _ => Scripted.handledBy_perform _ rfl
        apply (plain.rethrow AuthService.wrapCreateError).congr
        intro call member
        simp only [Scripted.rethrow, Scripted.andThen, Scripted.perform, List.map_append,
          List.map_cons, List.map_nil, List.mem_append, List.mem_singleton] at member
        rcases member with rfl | rfl
        · rfl
        · rfl
      · intro table
        exact Scripted.handledBy_ofExcept _

theorem loginCalls_handledBy (self : AuthService) (world : World)
    (loginRequest : LoginRequestDto) :
    (self.loginCalls world loginRequest).HandledBy tryHandler := by
  unfold AuthService.loginCalls
  apply Scripted.HandledBy.andThen (Scripted.handledBy_perform _ rfl)
  intro found
  cases found with
  | none => exact Scripted.handledBy_ofExcept _
  | some user =>
      apply Scripted.HandledBy.andThen (Scripted.handledBy_perform _ rfl)
      intro accepted
      cases accepted with
      | false => exact Scripted.handledBy_ofExcept _
      | true =>
          rw [if_pos rfl]
          apply Scripted.HandledBy.andThen (Scripted.handledBy_perform _ rfl)
          exact fun accessToken => Scripted.handledBy_ofExcept _

theorem currentUserCalls_handledBy (world : World) (userTokenData : Option TokenData) :
    (currentUserCalls world userTokenData).HandledBy tryHandler := by
  unfold currentUserCalls
  cases userTokenData.bind TokenData.email with
  | none => exact Scripted.handledBy_ofExcept _
  | some email => exact Scripted.handledBy_perform _ rfl

/-- Inside the session scope, after which the response is serialised. -/
theorem sessionScope_handledBy {Value : Type} {calls : Handling Value}
    (handled : calls.HandledBy tryHandler) (response : Value → Except PyException Response) :
    (Scripted.rethrow sessionScope
      (calls.andThen fun value => Scripted.perform .serializeResponse (response value)) :
        Handling Response).HandledBy routeHandler :=
  (handled.andThen fun _ => Scripted.handledBy_perform _ rfl).rethrow sessionScope

/-- Every route lets a failure out through the clauses named for its call. -/
theorem router_handledBy (libraries : Libraries) (jwtConfig : JWTConfig) (world : World)
    (request : Request) (userTokenData : Option TokenData) :
    (libraries.router jwtConfig world request userTokenData).HandledBy routeHandler := by
  unfold Libraries.router
  split
  · exact Scripted.handledBy_ofExcept _
  · unfold Libraries.registerUser
    cases libraries.registerBody request with
    | none => exact Scripted.handledBy_ofExcept _
    | some user => exact sessionScope_handledBy (addNewUserCalls_handledBy _ world user) _
  · unfold Libraries.loginUser
    cases libraries.loginForm request with
    | none => exact Scripted.handledBy_ofExcept _
    | some loginRequest => exact sessionScope_handledBy (loginCalls_handledBy _ world loginRequest) _
  · unfold Libraries.usersMe
    cases oauth2Scheme request with
    | error error => exact Scripted.handledBy_ofExcept _
    | ok token => exact sessionScope_handledBy (currentUserCalls_handledBy world userTokenData) _
  · unfold Libraries.allUsers
    cases oauth2Scheme request with
    | error error => exact Scripted.handledBy_ofExcept _
    | ok token => exact sessionScope_handledBy (Scripted.handledBy_perform _ rfl) _
  · exact Scripted.handledBy_ofExcept _

/-- A preflight reaches no call. -/
theorem not_options_of_reaches {libraries : Libraries} {jwtConfig : JWTConfig} {world : World}
    {request : Request} {userTokenData : Option TokenData} {site : Site}
    (reached : (libraries.router jwtConfig world request userTokenData).Reaches site) :
    request.method ≠ "OPTIONS" := by
  intro options
  obtain ⟨handler, member⟩ := reached
  unfold Libraries.router at member
  rw [options] at member
  split at member
  all_goals first
    | (rename_i method _; exact absurd method (by decide))
    | cases member

/-! ### What the client receives -/

/-- The kinds of exception that the `except` clauses of the stack tell apart. -/
inductive FailureKind where
  | sqlAlchemyError
  | appException (statusCode : Nat)
  | other
deriving DecidableEq, Repr

def FailureKind.exception (kind : FailureKind) (text : String) : PyException :=
  match kind with
  | .sqlAlchemyError => .sqlAlchemyError text
  | .appException statusCode => .httpException (baseAppException statusCode text)
  | .other => .other text

/-- A failure leaves a route as itself or as an HTTP exception, and as itself
only when no `except` clause on its way takes it. -/
theorem routeHandler_exception (site : Site) (kind : FailureKind) :
    (kind = .other ∧ site ≠ .add ∧ site ≠ .commit →
        ∀ text, routeHandler site (kind.exception text) = .other text) ∧
      (¬ (kind = .other ∧ site ≠ .add ∧ site ≠ .commit) →
        ∀ text, ∃ error, routeHandler site (kind.exception text) = .httpException error) := by
  constructor
  · intro untouched text
    obtain ⟨rfl, notAdd, notCommit⟩ := untouched
    cases site <;> first | rfl | contradiction
  · intro taken text
    cases kind with
    | sqlAlchemyError => cases site <;> exact ⟨_, rfl⟩
    | appException statusCode => cases site <;> exact ⟨_, rfl⟩
    | other =>
        have inTry : site = .add ∨ site = .commit := by
          by_contra outside
          push Not at outside
          exact taken ⟨rfl, outside⟩
        rcases inTry with rfl | rfl
        · exact ⟨_, rfl⟩
        · exact ⟨_, rfl⟩

namespace Deployment

variable (self : Deployment)

/-- Handling the request gets as far as this call. -/
def Reaches (request : Request) (site : Site) : Prop :=
  if site = .decode then ∃ token, extractTokenFromHeader request = some token
  else ∃ userTokenData,
    (self.authMiddleware none).dispatch request self.world.now = .ok (.forward userTokenData) ∧
      (self.libraries.router self.config.jwt self.world request userTokenData).Reaches site

/-- Whatever the text of the failure, the client receives one status and the
generic message. -/
def Redacts (request : Request) (site : Site) (kind : FailureKind) : Prop :=
  ∃ statusCode, ∀ text,
    (self.respond (some (site, kind.exception text)) request).statusCode = statusCode ∧
      (self.respond (some (site, kind.exception text)) request).body =
        .message internalServerErrorMessage

variable {self}

theorem authMiddleware_of_ne_decode {site : Site} (notDecode : site ≠ .decode)
    (error : PyException) : self.authMiddleware (some (site, error)) = self.authMiddleware none := by
  cases site <;> first | rfl | contradiction

/-- A failure of `jwt.decode` passes every layer of the application. -/
theorem respond_of_decode {request : Request} (reached : self.Reaches request .decode)
    (error : PyException) :
    self.respond (some (.decode, error)) request =
      ⟨500, .plain "Internal Server Error", none⟩ := by
  obtain ⟨token, extracted⟩ := reached
  have raised : (self.authMiddleware (some (.decode, error))).dispatch request self.world.now =
      .error error := by
    simp only [AuthMiddleware.dispatch, AuthMiddleware.userTokenData, extracted, authMiddleware,
      PyJWT.struckBy, TokenService.verifyToken, TokenService.decode]
  unfold respond
  rw [createApp_eq]
  simp only [AuthMiddleware.call, raised, serverErrorMiddleware]

/-- A failure at a route's call reaches the error middleware the way its `except`
clauses leave it. -/
theorem respond_of_reaches {request : Request} {site : Site} (notDecode : site ≠ .decode)
    (reached : self.Reaches request site) (error : PyException) :
    ∃ app : App, ∃ userTokenData,
      app request userTokenData = .error (routeHandler site error) ∧
      request.method ≠ "OPTIONS" ∧
      self.respond (some (site, error)) request =
        serverErrorMiddleware (self.config.errorMiddleware.dispatch
          (self.cors.call (exceptionMiddleware app)) request userTokenData) := by
  rw [Reaches, if_neg notDecode] at reached
  obtain ⟨userTokenData, forwarded, atSite⟩ := reached
  have struck : self.router (some (site, error)) request userTokenData =
      .error (routeHandler site error) :=
    Scripted.runWith_of_reaches (router_handledBy _ _ _ request userTokenData) atSite error
  refine ⟨self.router (some (site, error)), userTokenData, struck,
    not_options_of_reaches atSite, ?_⟩
  unfold respond
  rw [createApp_eq, authMiddleware_of_ne_decode notDecode]
  simp only [AuthMiddleware.call, forwarded, innerApp]

/-- What leaves a route as itself gets the generic message. -/
theorem redacts_of_untouched
    (quiet : self.config.errorMiddleware.returnDetailedInternalErrors = false)
    {request : Request} {site : Site} (notDecode : site ≠ .decode)
    (reached : self.Reaches request site) {kind : FailureKind}
    (untouched : kind = .other ∧ site ≠ .add ∧ site ≠ .commit) :
    self.Redacts request site kind := by
  refine ⟨500, fun text => ?_⟩
  obtain ⟨app, userTokenData, raised, notOptions, received⟩ :=
    respond_of_reaches notDecode reached (kind.exception text)
  rw [(routeHandler_exception site kind).1 untouched text] at raised
  obtain ⟨allowOrigin, passed⟩ :=
    self.cors.call_of_not_options (exceptionMiddleware app) notOptions userTokenData
  rw [exceptionMiddleware_other raised] at passed
  rw [received]
  simp only [ErrorMiddlewareConfig.dispatch, passed, Except.map, serverErrorMiddleware,
    ErrorMiddlewareConfig.createResponse, quiet]
  exact ⟨trivial, rfl⟩

/-- What leaves a route as an HTTP exception is answered with its own detail. -/
theorem detail_of_taken {request : Request} {site : Site} (notDecode : site ≠ .decode)
    (reached : self.Reaches request site) {kind : FailureKind}
    (taken : ¬ (kind = .other ∧ site ≠ .add ∧ site ≠ .commit)) (text : String) :
    ∃ detail, (self.respond (some (site, kind.exception text)) request).body = .detail detail := by
  obtain ⟨app, userTokenData, raised, notOptions, received⟩ :=
    respond_of_reaches notDecode reached (kind.exception text)
  rcases (routeHandler_exception site kind).2 taken text with ⟨error, isHttp⟩
  rw [isHttp] at raised
  obtain ⟨allowOrigin, passed⟩ :=
    self.cors.call_of_not_options (exceptionMiddleware app) notOptions userTokenData
  rw [exceptionMiddleware_httpException raised] at passed
  refine ⟨error.detail, ?_⟩
  rw [received]
  simp only [ErrorMiddlewareConfig.dispatch, passed, Except.map, serverErrorMiddleware]

/-- With detailed errors off, an internal failure is redacted exactly when it is
neither an HTTP exception nor a database error, and is raised inside the error
middleware and outside the `try` block of `add_new_user`. -/
theorem redacts_iff (quiet : self.config.errorMiddleware.returnDetailedInternalErrors = false)
    {request : Request} {site : Site} (reached : self.Reaches request site)
    (kind : FailureKind) :
    self.Redacts request site kind ↔
      kind = .other ∧ site ≠ .decode ∧ site ≠ .add ∧ site ≠ .commit := by
  constructor
  · intro redacts
    obtain ⟨statusCode, uniform⟩ := redacts
    have shown := (uniform "").2
    have notDecode : site ≠ .decode := by
      intro atDecode
      subst atDecode
      rw [respond_of_decode reached] at shown
      cases shown
    have untouched : kind = .other ∧ site ≠ .add ∧ site ≠ .commit := by
      by_contra taken
      rcases detail_of_taken notDecode reached taken "" with ⟨detail, body⟩
      rw [body] at shown
      cases shown
    exact ⟨untouched.1, notDecode, untouched.2⟩
  · intro elsewhere
    exact redacts_of_untouched quiet elsewhere.2.1 reached ⟨elsewhere.1, elsewhere.2.2⟩

theorem redacts_encryptPassword :
    referenceDeployment.Redacts registerRequest .encryptPassword .other := by
  have reached : referenceDeployment.Reaches registerRequest .encryptPassword :=
    ⟨none, by rfl, Scripted.reaches_iff.mpr (by decide)⟩
  exact (redacts_iff rfl reached .other).mpr (by decide)

/-- The database's own words reach the client that tried to register. -/
theorem redacts_fails_on_commit :
    referenceDeployment.config.errorMiddleware.returnDetailedInternalErrors = false ∧
      referenceDeployment.Reaches registerRequest .commit ∧
      (∀ text, referenceDeployment.respond (some (.commit, .sqlAlchemyError text))
        registerRequest = ⟨500, .detail text, none⟩) ∧
      ¬ referenceDeployment.Redacts registerRequest .commit .sqlAlchemyError := by
  have leaks : ∀ text, referenceDeployment.respond (some (.commit, .sqlAlchemyError text))
      registerRequest = ⟨500, .detail text, none⟩ := fun text => by rfl
  refine ⟨rfl, ⟨none, by rfl, Scripted.reaches_iff.mpr (by decide)⟩, leaks, ?_⟩
  intro redacts
  obtain ⟨statusCode, uniform⟩ := redacts
  have body := (uniform "").2
  change (referenceDeployment.respond (some (.commit, .sqlAlchemyError ""))
    registerRequest).body = _ at body
  rw [leaks] at body
  cases body

end Deployment

end DemoBase.Backend
