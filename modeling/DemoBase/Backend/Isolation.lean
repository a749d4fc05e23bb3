import DemoBase.Backend.Application
import DemoBase.Backend.Session

/-!
Owns what a response reveals about the user table. Apart from registration and
login, a request that may not list the users is answered from the row of the
account that signed it and from nothing else in the table.
-/

set_option autoImplicit false

namespace DemoBase.Backend

open DemoBase.Foundations

/-- The two routes that look an account up by what the request body says. -/
def Request.OpensAccount (request : Request) : Prop :=
  request.method = "POST" ∧
    (request.path = "/api/v1/auth/register" ∨ request.path = "/api/v1/auth/login")

def Request.ListsUsers (request : Request) : Prop :=
  request.method = "GET" ∧ request.path = "/api/v1/users"

/-! ### Layers -/

section Layers

variable {left right : App} {request : Request} {userTokenData : Option TokenData}

/-- A layer looks at what the application inside it does with this request only. -/
theorem exceptionMiddleware_congr
    (same : left request userTokenData = right request userTokenData) :
    exceptionMiddleware left request userTokenData =
      exceptionMiddleware right request userTokenData := by
  unfold exceptionMiddleware
  rw [same]

theorem CORSMiddleware.call_congr (self : CORSMiddleware)
    (same : left request userTokenData = right request userTokenData) :
    self.call left request userTokenData = self.call right request userTokenData := by
  unfold CORSMiddleware.call
  rw [same]

theorem ErrorMiddlewareConfig.dispatch_congr (self : ErrorMiddlewareConfig)
    (same : left request userTokenData = right request userTokenData) :
    self.dispatch left request userTokenData = self.dispatch right request userTokenData := by
  unfold ErrorMiddlewareConfig.dispatch
  rw [same]

end Layers

/-! ### Routes -/

section Routes

variable {self : Libraries} {jwtConfig : JWTConfig} {world : World} {users : UserTable}
  {request : Request} {userTokenData : Option TokenData}

/-- Tables in which the lookups of this account agree. -/
def SameAccount (left right : UserTable) (userTokenData : Option TokenData) : Prop :=
  ∀ email, userTokenData.bind TokenData.email = some email →
    findUserByEmail left email = findUserByEmail right email

theorem currentUserCalls_congr (same : SameAccount users world.users userTokenData) :
    currentUserCalls { world with users } userTokenData = currentUserCalls world userTokenData := by
  unfold currentUserCalls
  cases account : userTokenData.bind TokenData.email with
  | none => rfl
  | some email =>
      show Scripted.perform _ (findUserByEmail users email) = _
      rw [same email account]

/-- The routes that neither open an account nor list the users ask the table for
the account of the token. -/
theorem router_congr (opens : ¬ request.OpensAccount) (lists : ¬ request.ListsUsers)
    (same : SameAccount users world.users userTokenData) :
    self.router jwtConfig { world with users } request userTokenData =
      self.router jwtConfig world request userTokenData := by
  unfold Libraries.router
  split
  · rfl
  · rename_i method path
    exact absurd ⟨method, Or.inl path⟩ opens
  · rename_i method path
    exact absurd ⟨method, Or.inr path⟩ opens
  · unfold Libraries.usersMe
    rw [currentUserCalls_congr same]
  · rename_i method path
    exact absurd ⟨method, path⟩ lists
  · rfl

end Routes

/-! ### Responses -/

/-- What a decision forwards is the data of the verified token. -/
theorem AuthMiddleware.userTokenData_of_forward {self : AuthMiddleware} {request : Request}
    {now : Instant} {forwarded : Option TokenData}
    (dispatched : self.dispatch request now = .ok (.forward forwarded)) :
    self.userTokenData request now = .ok forwarded := by
  unfold dispatch at dispatched
  cases verified : self.userTokenData request now with
  | error error => simp [verified] at dispatched
  | ok data =>
      simp only [verified] at dispatched
      cases selected : findMatchingPathConfig self.config.pathAccess request.path with
      | none =>
          simp only [selected, Except.ok.injEq, Decision.forward.injEq] at dispatched
          rw [dispatched]
      | some rule =>
          simp only [selected, Except.ok.injEq] at dispatched
          rw [((enforce_eq_forward (verified_has_token verified)).mp dispatched).2]

namespace Deployment

variable (self : Deployment)

/-- The deployment over another user table. -/
def withUsers (users : UserTable) : Deployment :=
  { self with world := { self.world with users } }

variable {self} {fault : Fault} {request : Request} {users : UserTable}

/-- Over two tables a request is answered alike when its route is. -/
theorem respond_congr (same : ∀ forwarded,
    (self.authMiddleware fault).dispatch request self.world.now = .ok (.forward forwarded) →
      (self.withUsers users).router fault request forwarded =
        self.router fault request forwarded) :
    (self.withUsers users).respond fault request = self.respond fault request := by
  have middleware : (self.withUsers users).authMiddleware fault = self.authMiddleware fault := rfl
  have now : (self.withUsers users).world.now = self.world.now := rfl
  unfold respond
  rw [createApp_eq, createApp_eq, middleware, now]
  unfold AuthMiddleware.call
  cases dispatched : (self.authMiddleware fault).dispatch request self.world.now with
  | error error => rfl
  | ok decision =>
      cases decision with
      | unauthorized detail => rfl
      | forward forwarded =>
          congr 1
          apply ErrorMiddlewareConfig.dispatch_congr
          apply CORSMiddleware.call_congr
          exact exceptionMiddleware_congr (same forwarded dispatched)

/-- The verified token of the request, if it has one, is of no role that this rule
allows. -/
def Unprivileged (self : Deployment) (fault : Fault) (request : Request)
    (rule : PathAccessConfig) : Prop :=
  ∀ tokenData, (self.authMiddleware fault).userTokenData request self.world.now =
    .ok (some tokenData) → isRoleAllowed tokenData.role rule.allowedRoles = false

/-- The account of the request's verified token satisfies this. -/
def AccountIs (self : Deployment) (fault : Fault) (request : Request) (holds : String → Prop) :
    Prop :=
  ∀ tokenData email, (self.authMiddleware fault).userTokenData request self.world.now =
    .ok (some tokenData) → tokenData.email = some email → holds email

/-- A rule that protects the list never hands it to an unprivileged request. -/
theorem Unprivileged.not_forwarded {rule : PathAccessConfig}
    (unprivileged : self.Unprivileged fault request rule)
    (selected : findMatchingPathConfig self.config.authMiddleware.pathAccess "/api/v1/users" =
      some rule)
    (protects : .get ∈ rule.methods) (lists : request.ListsUsers)
    (forwarded : Option TokenData) :
    (self.authMiddleware fault).dispatch request self.world.now ≠ .ok (.forward forwarded) := by
  intro dispatched
  have consulted : findMatchingPathConfig (self.authMiddleware fault).config.pathAccess
      request.path = some rule := by
    rw [lists.2]
    exact selected
  have listed : rule.Lists request := by
    unfold PathAccessConfig.Lists
    rw [lists.1]
    exact List.mem_map.mpr ⟨.get, protects, rfl⟩
  obtain ⟨token, tokenData, -, -, rfl, allowed⟩ :=
    AuthMiddleware.dispatch_forward_listed consulted listed dispatched
  have refused := unprivileged tokenData (AuthMiddleware.userTokenData_of_forward dispatched)
  rw [allowed] at refused
  cases refused

/-- An unprivileged request that opens no account reaches the table only for the
row of its own account. -/
theorem Unprivileged.router_withUsers {rule : PathAccessConfig}
    (unprivileged : self.Unprivileged fault request rule)
    (selected : findMatchingPathConfig self.config.authMiddleware.pathAccess "/api/v1/users" =
      some rule)
    (protects : .get ∈ rule.methods) (opens : ¬ request.OpensAccount)
    (ownRow : self.AccountIs fault request fun email =>
      findUserByEmail users email = findUserByEmail self.world.users email)
    {forwarded : Option TokenData}
    (dispatched : (self.authMiddleware fault).dispatch request self.world.now =
      .ok (.forward forwarded)) :
    (self.withUsers users).router fault request forwarded =
      self.router fault request forwarded := by
  have unlisted : ¬ request.ListsUsers := fun lists =>
    unprivileged.not_forwarded selected protects lists forwarded dispatched
  have verified := AuthMiddleware.userTokenData_of_forward dispatched
  have sameAccount : SameAccount users self.world.users forwarded := by
    intro email isAccount
    cases forwarded with
    | none => cases isAccount
    | some tokenData => exact ownRow tokenData email verified isAccount
  unfold router
  exact congrArg (Scripted.runWith fault) (router_congr opens unlisted sameAccount)

/-- What a response reveals. Where a rule protects the list of users, a request
that opens no account and is of no role that rule allows is answered, under any
failure, from the row of its own account: two tables that agree on that row give
the same response. -/
theorem respond_reveals_own_account {rule : PathAccessConfig}
    (selected : findMatchingPathConfig self.config.authMiddleware.pathAccess "/api/v1/users" =
      some rule)
    (protects : .get ∈ rule.methods) (unprivileged : self.Unprivileged fault request rule)
    (opens : ¬ request.OpensAccount)
    (ownRow : self.AccountIs fault request fun email =>
      findUserByEmail users email = findUserByEmail self.world.users email) :
    (self.withUsers users).respond fault request = self.respond fault request := by
  apply respond_congr
  intro forwarded dispatched
  exact unprivileged.router_withUsers selected protects opens ownRow dispatched

private def memberRow : User where
  id := 1
  email := "member@example.com"
  hashedPassword := "$argon2id$password"
  isActive := true
  userUuid := "5e0f6b0c-8f0e-4f39-9d0e-0d5a3a0b7c11"
  role := .user

private def memberState : ServerState := ⟨⟨[memberRow], List.nodup_singleton _⟩, 0⟩

private theorem exists_memberRequest : ∃ request : Request,
    request.method = "GET" ∧ request.path = "/api/v1/users/me" ∧
      (referenceDeployment.authMiddleware none).userTokenData request 0 =
        .ok (some ⟨some memberRow.email, some .user⟩) := by
  obtain ⟨token, minted⟩ : ∃ token, referenceTokenService.createAccessToken
      ⟨some memberRow.email, some .user⟩ 0 = .ok token := ⟨_, rfl⟩
  have documented : referenceTokenService.jwt.Documented := referenceJWT_documented
  obtain ⟨nonempty, solid⟩ := TokenService.createAccessToken_compact documented minted
  obtain ⟨request, method, path, header⟩ : ∃ request : Request, request.method = "GET" ∧
      request.path = "/api/v1/users/me" ∧ request.authorization = some ("Bearer " ++ token) :=
    ⟨{ method := "GET", path := "/api/v1/users/me", authorization := some ("Bearer " ++ token) },
      rfl, rfl, rfl⟩
  refine ⟨request, method, path, ?_⟩
  have early : (0 : Int) < referenceTokenService.rejectedFrom 0 := by decide
  have verdict := TokenService.verifyToken_createAccessToken documented minted 0
  rw [if_pos early] at verdict
  unfold AuthMiddleware.userTokenData
  rw [extractTokenFromHeader_bearer header nonempty solid]
  exact verdict

private theorem memberRequest_unprivileged {request : Request}
    (verified : (referenceDeployment.authMiddleware none).userTokenData request 0 =
      .ok (some ⟨some memberRow.email, some .user⟩)) :
    referenceDeployment.Unprivileged none request usersRule := by
  intro tokenData other
  obtain rfl : ⟨some memberRow.email, some .user⟩ = tokenData := by
    simpa using verified.symm.trans other
  decide

private theorem memberRequest_opens_nothing {request : Request} (method : request.method = "GET") :
    ¬ request.OpensAccount := by
  intro opens
  have posts := opens.1
  rw [method] at posts
  exact absurd posts (by decide)

private theorem beside_unique : KeyedRows.UniqueOn User.email [Server.rootRow, memberRow] := by
  unfold KeyedRows.UniqueOn
  decide

/-- The member's row and an administrator's. -/
private def beside : UserTable := ⟨[Server.rootRow, memberRow], beside_unique⟩

private theorem memberRow_beside : memberRow ∈ beside.rows :=
  List.mem_cons_of_mem _ List.mem_cons_self

/-- The member is answered alike beside an administrator and alone. -/
theorem respond_reveals_own_account_member : ∃ request : Request,
    request.path = "/api/v1/users/me" ∧
      (referenceDeployment.withUsers memberState.users).respond none request =
        (referenceDeployment.withUsers beside).respond none request := by
  obtain ⟨request, method, path, verified⟩ := exists_memberRequest
  refine ⟨request, path, ?_⟩
  have selected : findMatchingPathConfig
      (referenceDeployment.withUsers beside).config.authMiddleware.pathAccess "/api/v1/users" =
        some usersRule := default_selects_users
  have protects : HttpMethod.get ∈ usersRule.methods := by decide
  apply respond_reveals_own_account selected protects (memberRequest_unprivileged verified)
    (memberRequest_opens_nothing method)
  intro tokenData email other isAccount
  obtain rfl : ⟨some memberRow.email, some .user⟩ = tokenData := by
    simpa using verified.symm.trans other
  obtain rfl := Option.some.inj isAccount
  show findUserByEmail memberState.users memberRow.email = findUserByEmail beside memberRow.email
  rw [findUserByEmail_of_mem List.mem_cons_self, findUserByEmail_of_mem memberRow_beside]

/-- Whatever registrations and logins come between, the account sees the same. -/
theorem respond_keeps_over_run {server : Server}
    {environment : Machine.Environment ServerState Event Outcome} {start state : ServerState}
    {past : Server.Past} (run : Machine.Run server.machine environment start past state)
    {rule : PathAccessConfig}
    (selected : findMatchingPathConfig self.config.authMiddleware.pathAccess "/api/v1/users" =
      some rule)
    (protects : .get ∈ rule.methods) (unprivileged : self.Unprivileged fault request rule)
    (opens : ¬ request.OpensAccount)
    (registered : self.AccountIs fault request fun email =>
      ∃ row ∈ start.users.rows, row.email = email) :
    (self.withUsers state.users).respond fault request =
      (self.withUsers start.users).respond fault request := by
  have persists : Server.RowsPersist start state := by
    apply run.invariant
    · intro row member
      exact member
    · intro earlier before event _ _ kept row member
      exact Server.rowsPersist_next before event row (kept row member)
  have before : (self.withUsers start.users).Unprivileged fault request rule := unprivileged
  have ownRow : (self.withUsers start.users).AccountIs fault request fun email =>
      findUserByEmail state.users email = findUserByEmail start.users email := by
    intro tokenData email verified isAccount
    obtain ⟨row, member, rfl⟩ := registered tokenData email verified isAccount
    rw [findUserByEmail_of_mem member, findUserByEmail_of_mem (persists row member)]
  show ((self.withUsers start.users).withUsers state.users).respond fault request = _
  apply respond_congr
  intro forwarded dispatched
  exact before.router_withUsers selected protects opens ownRow dispatched

private def newcomer : Event :=
  .addNewUser referenceUser "salt" ⟨2, "9a1f6c57-53de-4be3-8d2c-0a1b3c4d5e6f"⟩

theorem respond_keeps_over_run_registration : ∃ request : Request,
    request.path = "/api/v1/users/me" ∧
      (referenceDeployment.withUsers
          (Server.referenceServer.machine.next memberState newcomer).users).respond none request =
        (referenceDeployment.withUsers memberState.users).respond none request := by
  obtain ⟨request, method, path, verified⟩ := exists_memberRequest
  refine ⟨request, path, ?_⟩
  have run : Machine.Run Server.referenceServer.machine Machine.unrestricted memberState _ _ :=
    Machine.Run.step newcomer .start trivial
  have protects : HttpMethod.get ∈ usersRule.methods := by decide
  apply respond_keeps_over_run run default_selects_users protects
    (memberRequest_unprivileged verified) (memberRequest_opens_nothing method)
  intro tokenData email other isAccount
  obtain rfl : ⟨some memberRow.email, some .user⟩ = tokenData := by
    simpa using verified.symm.trans other
  exact ⟨memberRow, List.mem_cons_self, Option.some.inj isAccount⟩

/-! ### Refused logins -/

/-- No account with this name has this password. -/
def RefusesLogin (self : Deployment) (loginRequest : LoginRequestDto) : Prop :=
  ∀ user ∈ self.world.users.rows, user.email = loginRequest.username →
    self.libraries.pwdContext.verify loginRequest.password user.hashedPassword = .ok false

/-- A refused login ends in the one exception, whether the account exists or not. -/
theorem authenticate_of_refused {loginRequest : LoginRequestDto}
    (refused : self.RefusesLogin loginRequest) :
    (self.libraries.authService self.config.jwt).authenticate self.world.users loginRequest =
      .error (.httpException invalidCredentialsException) := by
  unfold AuthService.authenticate
  rcases findUserByEmail_total self.world.users loginRequest.username with
    ⟨absent, -⟩ | ⟨user, member, isNamed, present⟩
  · rw [absent]
    rfl
  · have wrong : (self.libraries.authService self.config.jwt).passwordHasher.verifyPassword
        loginRequest.password user.hashedPassword = .ok false := refused user member isNamed
    simp [present, wrong, bind, Except.bind, throw, throwThe, MonadExceptOf.throw]

theorem router_of_refused {loginRequest : LoginRequestDto} (method : request.method = "POST")
    (path : request.path = "/api/v1/auth/login")
    (form : self.libraries.loginForm request = some loginRequest)
    (refused : self.RefusesLogin loginRequest) (forwarded : Option TokenData) :
    self.router none request forwarded =
      .error (.httpException invalidCredentialsException) := by
  have route : self.libraries.router self.config.jwt self.world request forwarded =
      self.libraries.loginUser self.config.jwt self.world request := by
    simp only [Libraries.router, method, path]
  have login := AuthService.loginCalls_result (self.libraries.authService self.config.jwt)
    self.world loginRequest
  have failed : (self.libraries.authService self.config.jwt).login self.world.users
      self.world.now loginRequest = .error (.httpException invalidCredentialsException) := by
    unfold AuthService.login
    rw [authenticate_of_refused refused]
    rfl
  rw [failed] at login
  unfold router
  rw [route, Scripted.runWith, Libraries.loginUser, form]
  show Except.mapError sessionScope (Scripted.result _) = _
  rw [Scripted.result_bind, login]
  rfl

/-- A refused login is answered as by a deployment without any user: the answer does
not tell a wrong password from an unknown account. -/
theorem respond_of_refused_login {loginRequest : LoginRequestDto}
    (method : request.method = "POST") (path : request.path = "/api/v1/auth/login")
    (form : self.libraries.loginForm request = some loginRequest)
    (refused : self.RefusesLogin loginRequest) :
    (self.withUsers ⟨[], List.nodup_nil⟩).respond none request = self.respond none request := by
  apply respond_congr
  intro forwarded _
  have sameForm : (self.withUsers ⟨[], List.nodup_nil⟩).libraries.loginForm request =
      some loginRequest := form
  have unknown : (self.withUsers ⟨[], List.nodup_nil⟩).RefusesLogin loginRequest := by
    intro user member
    cases member
  rw [router_of_refused method path form refused forwarded]
  exact router_of_refused method path sameForm unknown forwarded

private def wrongPassword : Request where
  method := "POST"
  path := "/api/v1/auth/login"
  fields := [("username", "member@example.com"), ("password", "not the password")]

theorem respond_of_refused_login_wrongPassword :
    (referenceDeployment.withUsers ⟨[], List.nodup_nil⟩).respond none wrongPassword =
      (referenceDeployment.withUsers memberState.users).respond none wrongPassword := by
  have refused : (referenceDeployment.withUsers memberState.users).RefusesLogin
      ⟨"member@example.com", "not the password"⟩ := by
    intro user member _
    rw [List.mem_singleton.mp member]
    decide
  have form : (referenceDeployment.withUsers memberState.users).libraries.loginForm
      wrongPassword = some ⟨"member@example.com", "not the password"⟩ := rfl
  show ((referenceDeployment.withUsers memberState.users).withUsers _).respond none _ = _
  exact respond_of_refused_login rfl rfl form refused

end Deployment

end DemoBase.Backend
