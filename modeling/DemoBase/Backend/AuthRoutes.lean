import DemoBase.Backend.CrossOrigin
import DemoBase.Backend.ErrorRedaction

/-!
Owns the outcomes of `POST /auth/register` and `POST /auth/login` under any failure: the
status of each, and what it says about the user table. Only a conflict answers 409 and
only refused credentials answer 401.
-/

set_option autoImplicit false

namespace DemoBase.Backend

open DemoBase.Foundations

/-- The status an exception of a route is answered with. -/
def failureStatus : PyException → Nat
  | .httpException error => error.statusCode
  | _ => 500

/-- The status of a route's outcome. -/
def statusOf : Except PyException Response → Nat
  | .ok response => response.statusCode
  | .error error => failureStatus error

/-- Passlib raises no HTTP exception. -/
structure CryptContext.RaisesPlainly (context : CryptContext) : Prop where
  encrypt : ∀ password salt error, context.encrypt password salt = .error error → error.Unhandled
  verify : ∀ password hashed error, context.verify password hashed = .error error →
    error.Unhandled

/-! ### Routes nobody protects -/

/-- A request without a token to a path without a rule passes the auth middleware. -/
theorem Deployment.forward_of_public {self : Deployment} {request : Request} (fault : Fault)
    (noHeader : request.authorization = none)
    (isPublic : findMatchingPathConfig self.config.authMiddleware.pathAccess request.path = none) :
    (self.authMiddleware fault).dispatch request self.world.now = .ok (.forward none) := by
  have noToken : extractTokenFromHeader request = none := by
    unfold extractTokenFromHeader
    rw [noHeader]
  have unruled : findMatchingPathConfig (self.authMiddleware fault).config.pathAccess
      request.path = none := isPublic
  rw [AuthMiddleware.dispatch_of_no_token noToken, unruled]

/-- A request without a token to a path without a rule is answered by its route. -/
theorem Deployment.respond_of_public {self : Deployment} {fault : Fault} {request : Request}
    (noHeader : request.authorization = none)
    (isPublic : findMatchingPathConfig self.config.authMiddleware.pathAccess request.path = none)
    (notOptions : request.method ≠ "OPTIONS") :
    (self.respond fault request).statusCode = statusOf (self.router fault request none) ∧
      ∀ response, self.router fault request none = .ok response →
        (self.respond fault request).body = response.body := by
  have forwarded := forward_of_public fault noHeader isPublic
  obtain ⟨allowOrigin, passed⟩ := self.cors.call_of_not_options
    (exceptionMiddleware (self.router fault)) notOptions none
  cases outcome : self.router fault request none with
  | ok response =>
      have inside : self.innerApp fault request none =
          .ok { response with allowOrigin := allowOrigin response } := by
        apply ErrorMiddlewareConfig.dispatch_of_ok
        rw [passed]
        simp only [exceptionMiddleware, outcome, Except.map]
      rw [respond_of_forwarded forwarded inside]
      refine ⟨rfl, fun other same => ?_⟩
      rw [← Except.ok.inj same]
  | error error =>
      refine ⟨?_, fun response same => by cases same⟩
      obtain ⟨response, inside, status⟩ : ∃ response,
          self.innerApp fault request none = .ok response ∧
            response.statusCode = failureStatus error := by
        unfold innerApp ErrorMiddlewareConfig.dispatch
        rw [passed]
        cases error with
        | httpException raised =>
            rw [exceptionMiddleware_httpException outcome]
            exact ⟨_, rfl, rfl⟩
        | sqlAlchemyError text =>
            rw [exceptionMiddleware_unhandled (by intro raised; simp) outcome]
            exact ⟨_, rfl, rfl⟩
        | other text =>
            rw [exceptionMiddleware_other outcome]
            exact ⟨_, rfl, rfl⟩
      rw [respond_of_forwarded forwarded inside, status]
      rfl

/-- A failure that is no HTTP exception is answered with 500, wherever it strikes. -/
theorem failureStatus_routeHandler (site : Site) {error : PyException}
    (unhandled : error.Unhandled) : failureStatus (routeHandler site error) = 500 := by
  cases error with
  | httpException raised => exact absurd rfl (unhandled raised)
  | sqlAlchemyError text => cases site <;> rfl
  | other text => cases site <;> rfl

theorem failureStatus_sessionScope {error : PyException} (unhandled : error.Unhandled) :
    failureStatus (sessionScope error) = 500 := by
  cases error with
  | httpException raised => exact absurd rfl (unhandled raised)
  | sqlAlchemyError text => rfl
  | other text => rfl

/-- A route that serialises what its calls return, inside the session scope. -/
def scopedRoute {Value : Type} (calls : Handling Value) (response : Value → Response) :
    Handling Response :=
  Scripted.rethrow sessionScope
    (calls.andThen fun value => Scripted.perform .serializeResponse (.ok (response value)))

/-- Under a failure that is no HTTP exception such a route answers with what its calls
returned, none of them being struck, or with their error, or with 500. -/
theorem scopedRoute_outcome {Value : Type} {calls : Handling Value}
    (handled : calls.HandledBy tryHandler) (response : Value → Response) {fault : Fault}
    (unhandled : ∀ site error, fault = some (site, error) → error.Unhandled) :
    (∃ value, calls.result = .ok value ∧
        (∀ site error, fault = some (site, error) → ¬ calls.Reaches site) ∧
        (scopedRoute calls response).runWith fault = .ok (response value)) ∨
      (∃ error, calls.result = .error error ∧
        (scopedRoute calls response).runWith fault = .error (sessionScope error)) ∨
      ∃ error, (scopedRoute calls response).runWith fault = .error error ∧
        failureStatus error = 500 := by
  have handledInside := sessionScope_handledBy handled fun value => .ok (response value)
  rcases Scripted.runWith_cases handledInside fault with
    ⟨missed, unreached⟩ | ⟨site, error, struck, outcome⟩
  · have result : (scopedRoute calls response).runWith fault =
        (calls.result.map response).mapError sessionScope := by
      refine missed.trans ?_
      show Except.mapError sessionScope (Scripted.result (calls >>= _)) = _
      rw [Scripted.result_bind]
      cases calls.result <;> rfl
    cases returned : calls.result with
    | ok value =>
        left
        rw [returned] at result
        refine ⟨value, rfl, fun site error struck reached => ?_, result⟩
        exact unreached site error struck ((reached.andThen _).rethrow sessionScope)
    | error error =>
        right
        left
        rw [returned] at result
        exact ⟨error, rfl, result⟩
  · right
    right
    exact ⟨_, outcome, failureStatus_routeHandler site (unhandled site error struck)⟩

/-! ### Registration -/

section Registration

variable {self : Libraries} {jwtConfig : JWTConfig} {world : World} {request : Request}
  {fault : Fault}

/-- The calls of `add_new_user` up to its commit. -/
def registrationSites : List Site := [.encryptPassword, .findUserByEmail, .add, .commit]

/-- A registration that returns has made all its calls. -/
theorem addNewUserCalls_reaches {service : AuthService} {user : RegisterRequestDto}
    {response : RegisterResponseDto}
    (returned : (service.addNewUserCalls world user).result = .ok response) {site : Site}
    (listed : site ∈ registrationSites) : (service.addNewUserCalls world user).Reaches site := by
  rw [Scripted.reaches_iff]
  unfold AuthService.addNewUserCalls at returned ⊢
  cases encrypted : service.passwordHasher.encryptPassword user.password world.salt with
  | error error => simp [encrypted, Except.bind] at returned
  | ok hashed =>
      rcases findUserByEmail_total world.users user.email with ⟨absent, -⟩ | ⟨other, -, -, present⟩
      · cases inserted : world.users.insert
          ((⟨user.email, hashed, .user⟩ : PendingUser).flush world.generated) with
        | error error =>
            simp [encrypted, absent, inserted, Except.bind, Scripted.rethrow, Except.mapError]
              at returned
        | ok table =>
            simp only [registrationSites, List.mem_cons, List.not_mem_nil, or_false] at listed
            rcases listed with rfl | rfl | rfl | rfl <;>
              simp [absent, inserted, bind, Scripted.andThen, Scripted.perform, Scripted.rethrow,
                Except.mapError]
      · simp [encrypted, present, Except.bind] at returned

/-- A registration makes no other calls. -/
theorem mem_registrationSites {service : AuthService} {user : RegisterRequestDto} {site : Site}
    (reached : (service.addNewUserCalls world user).Reaches site) : site ∈ registrationSites := by
  unfold AuthService.addNewUserCalls at reached
  rw [Scripted.reaches_bind, Scripted.reaches_perform] at reached
  rcases reached with rfl | ⟨hashed, -, reached⟩
  · simp [registrationSites]
  rw [Scripted.reaches_bind, Scripted.reaches_perform] at reached
  rcases reached with rfl | ⟨existing, -, reached⟩
  · simp [registrationSites]
  cases existing with
  | some other => exact absurd reached Scripted.reaches_ofExcept.mp
  | none =>
      dsimp only at reached
      rw [Scripted.reaches_bind, Scripted.reaches_rethrow, Scripted.reaches_bind,
        Scripted.reaches_perform] at reached
      rcases reached with (rfl | ⟨added, -, atCommit⟩) | ⟨table, -, finished⟩
      · simp [registrationSites]
      · rw [Scripted.reaches_perform.mp atCommit]
        simp [registrationSites]
      · exact absurd finished Scripted.reaches_ofExcept.mp

/-- The route goes on to its response once the account was created and committed. -/
theorem registerUser_reaches {site : Site}
    (reached : (self.registerUser jwtConfig world request).Reaches site) :
    ∃ user, self.registerBody request = some user ∧ (site ∈ registrationSites ∨
      site = .serializeResponse ∧ ∃ created,
        ((self.authService jwtConfig).addNewUser world.users user world.salt
          world.generated).2 = .ok created) := by
  unfold Libraries.registerUser at reached
  cases parsed : self.registerBody request with
  | none =>
      rw [parsed] at reached
      exact absurd reached Scripted.reaches_ofExcept.mp
  | some user =>
      refine ⟨user, rfl, ?_⟩
      rw [parsed] at reached
      dsimp only at reached
      rw [Scripted.reaches_rethrow, Scripted.reaches_bind] at reached
      rcases reached with inside | ⟨created, returned, atResponse⟩
      · exact Or.inl (mem_registrationSites inside)
      · rw [AuthService.addNewUserCalls_result] at returned
        exact Or.inr ⟨Scripted.reaches_perform.mp atResponse, created, returned⟩

/-- A registration fails with the conflict, because the email is taken, or with an error
that is answered with 500. -/
theorem addNewUser_error {service : AuthService}
    (plain : service.passwordHasher.pwdContext.RaisesPlainly) {users : UserTable}
    {user : RegisterRequestDto} {salt : String} {generated : Generated} {error : PyException}
    (raised : (service.addNewUser users user salt generated).2 = .error error) :
    failureStatus (sessionScope error) = 500 ∨
      failureStatus (sessionScope error) = 409 ∧ ∃ row ∈ users.rows, row.email = user.email := by
  unfold AuthService.addNewUser at raised
  cases built : service.buildUser user salt with
  | error failed =>
      simp only [built, bind, Except.bind] at raised
      left
      obtain rfl := Except.error.inj raised
      unfold AuthService.buildUser at built
      cases encrypted : service.passwordHasher.encryptPassword user.password salt with
      | ok hashed => simp [encrypted] at built
      | error encryption =>
          rw [encrypted] at built
          obtain rfl := Except.error.inj built
          exact failureStatus_sessionScope (plain.encrypt _ _ _ encrypted)
  | ok newUser =>
      have sameEmail := (AuthService.buildUser_ok built).1
      rcases AuthService.checkAbsent_total users newUser with free | ⟨conflict, row, listed, same⟩
      · cases committed : AuthService.addAndCommit users newUser generated with
        | ok after => simp [built, bind, Except.bind, free, committed, pure, Except.pure] at raised
        | error failed =>
            simp only [built, bind, Except.bind, free, committed] at raised
            left
            obtain rfl := Except.error.inj raised
            unfold AuthService.addAndCommit at committed
            cases inserted : users.insert (newUser.flush generated) with
            | ok table => simp [inserted, Except.mapError] at committed
            | error reason =>
                rw [inserted] at committed
                obtain rfl := Except.error.inj committed
                rfl
      · simp only [built, bind, Except.bind, conflict] at raised
        right
        obtain rfl := Except.error.inj raised
        exact ⟨rfl, row, listed, same.trans sameEmail⟩

/-- The failure strikes before the commit of `add_new_user` has had its effect. -/
def strikesRegistration (fault : Fault) : Bool :=
  match fault with
  | none => false
  | some (site, _) => decide (site ∈ registrationSites)

/-- Every outcome of `POST /auth/register` when failures are no HTTP exceptions: the body
is invalid, the account was created and committed, or an error is answered with 500
unless it is the conflict with a row of that email. -/
theorem registerUser_outcome (plain : self.pwdContext.RaisesPlainly)
    (unhandled : ∀ site error, fault = some (site, error) → error.Unhandled) :
    (self.registerBody request = none ∧
        (self.registerUser jwtConfig world request).runWith fault =
          .ok (self.validationError request)) ∨
      ∃ user, self.registerBody request = some user ∧
        ((∃ created value,
            ((self.authService jwtConfig).addNewUser world.users user world.salt
              world.generated).2 = .ok created ∧ strikesRegistration fault = false ∧
            (self.registerUser jwtConfig world request).runWith fault =
              .ok ⟨201, .json value, none⟩) ∨
          ∃ error, (self.registerUser jwtConfig world request).runWith fault = .error error ∧
            (failureStatus error = 500 ∨
              failureStatus error = 409 ∧ ∃ row ∈ world.users.rows, row.email = user.email)) := by
  cases parsed : self.registerBody request with
  | none =>
      left
      refine ⟨rfl, ?_⟩
      unfold Libraries.registerUser
      rw [parsed]
      cases fault <;> rfl
  | some user =>
      right
      have route : self.registerUser jwtConfig world request =
          scopedRoute ((self.authService jwtConfig).addNewUserCalls world user) fun response =>
            ⟨201, .json (.object [("id", .string response.id),
              ("email", .string response.email)]), none⟩ := by
        unfold Libraries.registerUser
        rw [parsed]
        rfl
      have result := AuthService.addNewUserCalls_result (self.authService jwtConfig) world user
      refine ⟨user, rfl, ?_⟩
      rw [route]
      rcases scopedRoute_outcome (addNewUserCalls_handledBy _ world user) _ unhandled with
        ⟨created, returned, unreached, outcome⟩ | ⟨error, raised, outcome⟩ |
          ⟨error, outcome, status⟩
      · left
        refine ⟨created, _, result ▸ returned, ?_, outcome⟩
        cases fault with
        | none => rfl
        | some struck =>
            apply decide_eq_false
            intro listed
            exact unreached struck.1 struck.2 rfl (addNewUserCalls_reaches returned listed)
      · right
        exact ⟨_, outcome, addNewUser_error plain (result ▸ raised)⟩
      · right
        exact ⟨error, outcome, Or.inl status⟩

end Registration

/-! ### Login -/

section Login

variable {self : Libraries} {jwtConfig : JWTConfig} {world : World} {request : Request}
  {fault : Fault}

/-- A login fails with the refusal of its credentials or with an error that is answered
with 500. -/
theorem login_error {service : AuthService}
    (plain : service.passwordHasher.pwdContext.RaisesPlainly) {users : UserTable} {now : Instant}
    {loginRequest : LoginRequestDto} {error : PyException}
    (raised : service.login users now loginRequest = .error error) :
    failureStatus (sessionScope error) = 500 ∨
      failureStatus (sessionScope error) = 401 ∧
        service.authenticate users loginRequest =
          .error (.httpException invalidCredentialsException) := by
  unfold AuthService.login at raised
  cases authenticated : service.authenticate users loginRequest with
  | ok user => simp [authenticated, bind, Except.bind, pure, Except.pure,
      TokenService.createAccessToken] at raised
  | error failed =>
      rw [authenticated] at raised
      obtain rfl := Except.error.inj raised
      unfold AuthService.authenticate at authenticated
      rcases findUserByEmail_total users loginRequest.username with
        ⟨absent, -⟩ | ⟨row, -, -, present⟩
      · simp only [absent, bind, Except.bind, throw, throwThe, MonadExceptOf.throw]
          at authenticated
        obtain rfl := Except.error.inj authenticated
        exact Or.inr ⟨rfl, rfl⟩
      · cases verified : service.passwordHasher.verifyPassword loginRequest.password
          row.hashedPassword with
        | error failure =>
            simp only [present, bind, Except.bind, verified] at authenticated
            obtain rfl := Except.error.inj authenticated
            exact Or.inl (failureStatus_sessionScope (plain.verify _ _ _ verified))
        | ok accepted =>
            cases accepted with
            | true => simp [present, bind, Except.bind, verified, pure, Except.pure]
                at authenticated
            | false =>
                simp only [present, bind, Except.bind, verified, Bool.false_eq_true, if_false,
                  throw, throwThe, MonadExceptOf.throw] at authenticated
                obtain rfl := Except.error.inj authenticated
                exact Or.inr ⟨rfl, rfl⟩

/-- Every outcome of `POST /auth/login` for a form that parses: the token of the login, or
an error that is answered with 500 unless it is the refusal of the credentials. -/
theorem loginUser_outcome (plain : self.pwdContext.RaisesPlainly)
    (unhandled : ∀ site error, fault = some (site, error) → error.Unhandled)
    {loginRequest : LoginRequestDto} (parsed : self.loginForm request = some loginRequest) :
    (∃ response, (self.authService jwtConfig).login world.users world.now loginRequest =
        .ok response ∧
      (self.loginUser jwtConfig world request).runWith fault =
        .ok ⟨200, .json (.object [("access_token", .string response.accessToken),
          ("token_type", .string response.tokenType)]), none⟩) ∨
      ∃ error, (self.loginUser jwtConfig world request).runWith fault = .error error ∧
        (failureStatus error = 500 ∨
          failureStatus error = 401 ∧
            (self.authService jwtConfig).authenticate world.users loginRequest =
              .error (.httpException invalidCredentialsException)) := by
  have route : self.loginUser jwtConfig world request =
      scopedRoute ((self.authService jwtConfig).loginCalls world loginRequest) fun response =>
        ⟨200, .json (.object [("access_token", .string response.accessToken),
          ("token_type", .string response.tokenType)]), none⟩ := by
    unfold Libraries.loginUser
    rw [parsed]
    rfl
  have result := AuthService.loginCalls_result (self.authService jwtConfig) world loginRequest
  rw [route]
  rcases scopedRoute_outcome (loginCalls_handledBy _ world loginRequest) _ unhandled with
    ⟨response, returned, -, outcome⟩ | ⟨error, raised, outcome⟩ | ⟨error, outcome, status⟩
  · left
    exact ⟨response, result ▸ returned, outcome⟩
  · right
    exact ⟨_, outcome, login_error plain (result ▸ raised)⟩
  · right
    exact ⟨error, outcome, Or.inl status⟩

end Login

end DemoBase.Backend
