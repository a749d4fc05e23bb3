import DemoBase.Backend.UserDependencies
import DemoBase.Foundations.Machine

/-!
Owns the backend as a machine over its user table and clock, answering
registrations, logins, clock ticks and arbitrary HTTP requests in any order,
and the authorization soundness of its whole runs.

A `Grant` is what one login's `create_access_token` call handed out: a token, the row it
was minted for and the instant of minting. Two facts carry every result here: a
granted row never changes, and a token of a grant verifies to that row's data.
-/

set_option autoImplicit false

namespace DemoBase.Backend

open DemoBase.Foundations

/-- The parts of one deployment that decide over accounts and requests. -/
structure Server where
  authService : AuthService
  pathAccess : List PathAccessConfig

structure ServerState where
  users : UserTable
  now : Instant

inductive Event where
  | addNewUser (user : RegisterRequestDto) (salt : String) (generated : Generated)
  | login (loginRequest : LoginRequestDto)
  | tick (elapsed : Nat)
  | request (request : Request)

inductive Outcome where
  | registered (result : Except PyException RegisterResponseDto)
  | loggedIn (result : Except PyException LoginResponseDto)
  | ticked
  | dispatched (result : Except PyException Decision)

namespace Server

variable (self : Server)

def authMiddleware : AuthMiddleware := ⟨⟨self.pathAccess⟩, self.authService.tokenService⟩

def step (state : ServerState) : Event → ServerState × Outcome
  | .addNewUser user salt generated =>
      let registered := self.authService.addNewUser state.users user salt generated
      ({ state with users := registered.1 }, .registered registered.2)
  | .login loginRequest =>
      (state, .loggedIn (self.authService.login state.users state.now loginRequest))
  | .tick elapsed => ({ state with now := state.now + elapsed }, .ticked)
  | .request request => (state, .dispatched (self.authMiddleware.dispatch request state.now))

def machine : Machine ServerState Event Outcome := ⟨self.step⟩

abbrev Answered := Machine.Entry ServerState Event Outcome

abbrev Past := Machine.History ServerState Event Outcome

/-! ### Grants -/

/-- What the `create_access_token` calls made while answering an event return. -/
def createdTokens (state : ServerState) : Event → List String
  | .login loginRequest =>
      match self.authService.authenticate state.users loginRequest with
      | .error _ => []
      | .ok user =>
          match self.authService.tokenService.createAccessToken
            ⟨some user.email, some user.role⟩ state.now with
          | .error _ => []
          | .ok token => [token]
  | _ => []

structure Grant where
  token : String
  user : User
  issuedAt : Instant

/-- While answering this login, `create_access_token` minted the grant's token
for the data of the grant's row. -/
def Mints (answered : Answered) (grant : Grant) : Prop :=
  ∃ loginRequest, answered.input = .login loginRequest ∧
    self.authService.authenticate answered.before.users loginRequest = .ok grant.user ∧
    self.authService.tokenService.createAccessToken
      ⟨some grant.user.email, some grant.user.role⟩ answered.before.now = .ok grant.token ∧
    grant.issuedAt = answered.before.now

/-- A token that decodes under the service's secret and algorithm was returned by
an earlier `create_access_token` call. -/
def Unforgeable : Machine.Environment ServerState Event Outcome := fun past state event =>
  ∀ request token payload, event = .request request →
    extractTokenFromHeader request = some token →
    self.authService.tokenService.decode token state.now = .ok payload →
    ∃ answered ∈ past, token ∈ self.createdTokens answered.before answered.input

/-- The grant's token is accepted at this instant. -/
def Live (grant : Grant) (now : Instant) : Prop :=
  now < self.authService.tokenService.rejectedFrom grant.issuedAt

variable {self}

theorem next_login (state : ServerState) (loginRequest : LoginRequestDto) :
    self.machine.next state (.login loginRequest) = state := rfl

theorem answer_request (state : ServerState) (request : Request) :
    self.machine.answer state (.request request) =
      .dispatched (self.authMiddleware.dispatch request state.now) := rfl

/-- Only logins create tokens, each for the row they authenticated. -/
theorem mem_createdTokens {answered : Answered} {token : String} :
    token ∈ self.createdTokens answered.before answered.input ↔
      ∃ grant, self.Mints answered grant ∧ grant.token = token := by
  constructor
  · intro created
    cases input : answered.input with
    | login loginRequest =>
        simp only [input, createdTokens] at created
        cases authenticated : self.authService.authenticate answered.before.users loginRequest with
        | error error => simp [authenticated] at created
        | ok user =>
            simp only [authenticated] at created
            cases minted : self.authService.tokenService.createAccessToken
              ⟨some user.email, some user.role⟩ answered.before.now with
            | error error => simp [minted] at created
            | ok fresh =>
                obtain rfl : token = fresh := by simpa [minted] using created
                exact ⟨⟨token, user, answered.before.now⟩,
                  ⟨loginRequest, input, authenticated, minted, rfl⟩, rfl⟩
    | addNewUser user salt generated => simp [input, createdTokens] at created
    | tick elapsed => simp [input, createdTokens] at created
    | request request => simp [input, createdTokens] at created
  · intro granted
    obtain ⟨grant, ⟨loginRequest, input, authenticated, minted, -⟩, rfl⟩ := granted
    simp only [input, createdTokens, authenticated, minted, List.mem_singleton]

/-! ### The table only grows -/

def RowsPersist (earlier later : ServerState) : Prop :=
  ∀ row ∈ earlier.users.rows, row ∈ later.users.rows

/-- No event removes or changes a row. -/
theorem rowsPersist_next (state : ServerState) (event : Event) :
    RowsPersist state (self.machine.next state event) := by
  intro row member
  cases event with
  | addNewUser user salt generated =>
      show row ∈ (self.authService.addNewUser state.users user salt generated).1.rows
      rcases self.authService.addNewUser_cases state.users user salt generated with
        ⟨newUser, after, -, appended, outcome⟩ | ⟨error, outcome⟩
      · rw [outcome, appended]
        exact List.mem_append_left _ member
      · rw [outcome]
        exact member
  | login loginRequest => exact member
  | tick elapsed => exact member
  | request request => exact member

section Runs

variable {environment : Machine.Environment ServerState Event Outcome} {start state : ServerState}
  {past : Past}

/-- What the table holds after an answered event it holds ever after. -/
theorem rowsPersist_of_mem (run : Machine.Run self.machine environment start past state)
    {answered : Answered} (member : answered ∈ past) :
    RowsPersist (self.machine.next answered.before answered.input) state := by
  intro row inTable
  apply run.stable_of_mem _ member inTable
  intro earlier between event _ before
  exact rowsPersist_next between event row before

theorem row_persists (run : Machine.Run self.machine environment start past state)
    {answered : Answered} (member : answered ∈ past) {row : User}
    (found : row ∈ answered.before.users.rows) : row ∈ state.users.rows :=
  rowsPersist_of_mem run member row (rowsPersist_next answered.before answered.input row found)

/-- The row of a minted grant is found by the login that minted it and is still
in the table at the end of the run. -/
theorem Mints.row (run : Machine.Run self.machine environment start past state)
    {answered : Answered} (member : answered ∈ past) {grant : Grant}
    (mints : self.Mints answered grant) :
    grant.user ∈ answered.before.users.rows ∧ grant.user ∈ state.users.rows := by
  obtain ⟨loginRequest, -, authenticated, -, -⟩ := mints
  have found := (AuthService.authenticate_ok.mp authenticated).1
  have inTable := (mem_of_findUserByEmail found).1
  exact ⟨inTable, row_persists run member inTable⟩

/-- The login that minted a grant answered with the grant's token. -/
theorem Mints.output (run : Machine.Run self.machine environment start past state)
    {answered : Answered} (member : answered ∈ past) {grant : Grant}
    (mints : self.Mints answered grant) :
    answered.output = .loggedIn (.ok ⟨grant.token, "bearer"⟩) := by
  obtain ⟨loginRequest, input, authenticated, minted, -⟩ := mints
  rcases run.of_mem member with ⟨-, -, -, produced⟩
  have returned : self.authService.login answered.before.users answered.before.now loginRequest =
      .ok ⟨grant.token, "bearer"⟩ :=
    AuthService.login_ok.mpr ⟨grant.user, authenticated, minted, rfl⟩
  rw [produced, input]
  show Outcome.loggedIn _ = _
  rw [returned]

/-- Every token a login answered with was minted for a row. -/
theorem mints_of_output (run : Machine.Run self.machine environment start past state)
    {answered : Answered} (member : answered ∈ past) {loginRequest : LoginRequestDto}
    (input : answered.input = .login loginRequest) {response : LoginResponseDto}
    (output : answered.output = .loggedIn (.ok response)) :
    ∃ grant, self.Mints answered grant ∧ grant.token = response.accessToken := by
  rcases run.of_mem member with ⟨-, -, -, produced⟩
  have returned : self.authService.login answered.before.users answered.before.now loginRequest =
      .ok response := by
    rw [produced, input] at output
    exact Outcome.loggedIn.inj output
  rcases AuthService.login_ok.mp returned with ⟨user, authenticated, minted, -⟩
  exact ⟨⟨response.accessToken, user, answered.before.now⟩,
    ⟨loginRequest, input, authenticated, minted, rfl⟩, rfl⟩

end Runs

theorem Mints.issuedAt {answered : Answered} {grant : Grant}
    (mints : self.Mints answered grant) : grant.issuedAt = answered.before.now := by
  obtain ⟨-, -, -, -, issuedAt⟩ := mints
  exact issuedAt

/-- The token of a grant verifies to the data of the grant's row while it is
live, and to nothing afterwards. -/
theorem Mints.verifyToken (documented : self.authService.tokenService.jwt.Documented)
    {answered : Answered} {grant : Grant} (mints : self.Mints answered grant) (now : Instant) :
    (self.Live grant now → self.authService.tokenService.verifyToken grant.token now =
        .ok (some ⟨some grant.user.email, some grant.user.role⟩)) ∧
      (¬ self.Live grant now →
        self.authService.tokenService.verifyToken grant.token now = .ok none) := by
  obtain ⟨-, -, -, minted, issuedAt⟩ := mints
  have verdict := TokenService.verifyToken_createAccessToken documented minted now
  rw [← issuedAt] at verdict
  constructor
  · intro live
    exact verdict.trans (if_pos live)
  · intro dead
    exact verdict.trans (if_neg dead)

/-- An accepted token was granted, is live, and carries its row's data. -/
theorem granted_of_verified (documented : self.authService.tokenService.jwt.Documented)
    {past : Past} {state : ServerState} {request : Request} {token : String}
    {tokenData : TokenData} (allowed : self.Unforgeable past state (.request request))
    (extracted : extractTokenFromHeader request = some token)
    (verified : self.authService.tokenService.verifyToken token state.now =
      .ok (some tokenData)) :
    ∃ answered ∈ past, ∃ grant, self.Mints answered grant ∧ grant.token = token ∧
      self.Live grant state.now ∧
      tokenData = ⟨some grant.user.email, some grant.user.role⟩ := by
  rcases TokenService.verifyToken_eq_some.mp verified with ⟨payload, -, decoded, -, -⟩
  rcases allowed request token payload rfl extracted decoded with ⟨answered, member, created⟩
  rcases mem_createdTokens.mp created with ⟨grant, mints, sameToken⟩
  have verdict := mints.verifyToken documented state.now
  rw [sameToken, verified] at verdict
  by_cases live : self.Live grant state.now
  · have data := verdict.1 live
    simp only [Except.ok.injEq, Option.some.injEq] at data
    exact ⟨answered, member, grant, mints, sameToken, live, data⟩
  · have rejected := verdict.2 live
    simp at rejected

/-- What a request carrying a live grant's token gets from a protecting rule is
decided by the role of the grant's row. -/
theorem dispatch_of_live (documented : self.authService.tokenService.jwt.Documented)
    {answered : Answered} {grant : Grant} (mints : self.Mints answered grant) {now : Instant}
    (live : self.Live grant now) {request : Request}
    (carries : extractTokenFromHeader request = some grant.token) {rule : PathAccessConfig}
    (selected : findMatchingPathConfig self.pathAccess request.path = some rule)
    (listed : rule.Lists request) :
    self.authMiddleware.dispatch request now =
      if grant.user.role ∈ rule.allowedRoles then
        .ok (.forward (some ⟨some grant.user.email, some grant.user.role⟩))
      else .ok (.unauthorized "Insufficient permissions") := by
  have accepted := (mints.verifyToken documented now).1 live
  have verified : self.authMiddleware.userTokenData request now =
      .ok (some ⟨some grant.user.email, some grant.user.role⟩) := by
    unfold AuthMiddleware.userTokenData
    rw [carries]
    exact accepted
  have consulted : findMatchingPathConfig self.authMiddleware.config.pathAccess request.path =
      some rule := selected
  unfold AuthMiddleware.dispatch
  simp only [verified, consulted, carries]
  by_cases allowed : grant.user.role ∈ rule.allowedRoles
  · simp [enforce, listed, isRoleAllowed, allowed]
  · simp [enforce, listed, isRoleAllowed, allowed]

/-! ### Authorization soundness -/

/-- A request that a protecting rule lets through carries a token returned by an
earlier login with the password of a row, which is still in the table, has an
allowed role, and is the user the route sees. -/
theorem forward_authorized (documented : self.authService.tokenService.jwt.Documented)
    (onlyOwn : self.authService.passwordHasher.pwdContext.AcceptsOnlyOwn)
    {start state : ServerState} {past : Past}
    (run : Machine.Run self.machine self.Unforgeable start past state) {request : Request}
    (allowed : self.Unforgeable past state (.request request)) {rule : PathAccessConfig}
    (selected : findMatchingPathConfig self.pathAccess request.path = some rule)
    (listed : rule.Lists request) {forwarded : Option TokenData}
    (dispatched : self.machine.answer state (.request request) =
      .dispatched (.ok (.forward forwarded))) :
    ∃ token answered loginRequest row,
      extractTokenFromHeader request = some token ∧
      answered ∈ past ∧ answered.input = .login loginRequest ∧
      answered.output = .loggedIn (.ok ⟨token, "bearer"⟩) ∧
      row ∈ answered.before.users.rows ∧ row.email = loginRequest.username ∧
      (∃ salt, self.authService.passwordHasher.encryptPassword loginRequest.password salt =
        .ok row.hashedPassword) ∧
      row ∈ state.users.rows ∧ row.role ∈ rule.allowedRoles ∧
      state.now - answered.before.now <
        self.authService.tokenService.jwtConfig.accessTokenExpireMinutes * microsecondsPerMinute ∧
      getCurrentUserInfo state.users forwarded = .ok (some row) := by
  have decision : self.authMiddleware.dispatch request state.now = .ok (.forward forwarded) :=
    Outcome.dispatched.inj dispatched
  obtain ⟨token, tokenData, extracted, verified, rfl, roleAllowed⟩ :=
    AuthMiddleware.dispatch_forward_listed selected listed decision
  obtain ⟨answered, member, grant, mints, rfl, live, rfl⟩ :=
    granted_of_verified documented allowed extracted verified
  rcases mints.row run member with ⟨inTableThen, inTableNow⟩
  have returned := mints.output run member
  obtain ⟨loginRequest, input, authenticated, -, issuedAt⟩ := mints
  rcases AuthService.authenticate_ok.mp authenticated with ⟨found, passwordAccepted⟩
  have username := (mem_of_findUserByEmail found).2
  have hashed := onlyOwn _ _ passwordAccepted
  have inRoles : grant.user.role ∈ rule.allowedRoles := by
    simpa [isRoleAllowed] using roleAllowed
  have recent := TokenService.elapsed_lt_of_lt_rejectedFrom live
  rw [issuedAt] at recent
  exact ⟨grant.token, answered, loginRequest, grant.user, extracted, member, input, returned,
    inTableThen, username, hashed, inTableNow, inRoles, recent,
    getCurrentUserInfo_of_mem inTableNow _⟩

/-! ### A login on a table of one administrator -/

def rootRow : User where
  id := 1
  email := "root@example.com"
  hashedPassword := "$argon2id$correct horse"
  isActive := true
  userUuid := "5e0f6b0c-8f0e-4f39-9d0e-0d5a3a0b7c11"
  role := .admin

def rootState : ServerState := ⟨⟨[rootRow], List.nodup_singleton _⟩, 0⟩

def rootLogin : LoginRequestDto := ⟨"root@example.com", "correct horse"⟩

def referenceServer : Server := ⟨referenceAuthService, defaultPathAccess⟩

theorem referenceServer_documented :
    referenceServer.authService.tokenService.jwt.Documented := referenceJWT_documented

def rootEntry : Answered := referenceServer.machine.entry rootState (.login rootLogin)

theorem rootEntry_mints : ∃ token, referenceServer.Mints rootEntry ⟨token, rootRow, 0⟩ := by
  obtain ⟨token, minted⟩ : ∃ token, referenceServer.authService.tokenService.createAccessToken
      ⟨some rootRow.email, some rootRow.role⟩ rootState.now = .ok token := ⟨_, rfl⟩
  have authenticated : referenceServer.authService.authenticate rootState.users rootLogin =
      .ok rootRow := by
    rw [AuthService.authenticate_ok]
    have found : findUserByEmail rootState.users "root@example.com" = .ok (some rootRow) := by rfl
    have accepted : referenceContext.verify "correct horse" rootRow.hashedPassword = .ok true := by
      decide
    exact ⟨found, accepted⟩
  exact ⟨token, rootLogin, rfl, authenticated, minted, rfl⟩

theorem rootEntry_run :
    Machine.Run referenceServer.machine referenceServer.Unforgeable rootState [rootEntry]
      rootState := by
  have started : Machine.Run referenceServer.machine referenceServer.Unforgeable rootState []
      rootState := .start
  have loginAllowed : referenceServer.Unforgeable [] rootState (.login rootLogin) := by
    intro request token payload noRequest
    cases noRequest
  have run := started.step (.login rootLogin) loginAllowed
  rwa [next_login] at run

theorem forward_authorized_listUsers :
    ∃ row ∈ rootState.users.rows, row.role ∈ usersRule.allowedRoles ∧
      getCurrentUserInfo rootState.users (some ⟨some rootRow.email, some rootRow.role⟩) =
        .ok (some row) := by
  rcases rootEntry_mints with ⟨token, mints⟩
  rcases id mints with ⟨-, -, -, minted, -⟩
  obtain ⟨nonempty, solid⟩ := TokenService.createAccessToken_compact referenceServer_documented minted
  obtain ⟨listUsers, method, path, header⟩ : ∃ request : Request, request.method = "GET" ∧
      request.path = "/api/v1/users" ∧ request.authorization = some ("Bearer " ++ token) :=
    ⟨{ method := "GET", path := "/api/v1/users", authorization := some ("Bearer " ++ token) },
      rfl, rfl, rfl⟩
  have carries := extractTokenFromHeader_bearer header nonempty solid
  have requestAllowed : referenceServer.Unforgeable [rootEntry] rootState (.request listUsers) := by
    intro request carried payload same extracted decoded
    obtain rfl := Event.request.inj same
    have sameToken := Option.some.inj (carries.symm.trans extracted)
    exact ⟨rootEntry, List.mem_cons_self, mem_createdTokens.mpr ⟨_, mints, sameToken⟩⟩
  have selected : findMatchingPathConfig referenceServer.pathAccess listUsers.path =
      some usersRule := by
    rw [path]
    exact default_selects_users
  have listed : usersRule.Lists listUsers := by
    unfold PathAccessConfig.Lists
    rw [method]
    decide
  have live : referenceServer.Live ⟨token, rootRow, 0⟩ rootState.now := by
    show (0 : Int) < referenceTokenService.rejectedFrom 0
    decide
  have decision := dispatch_of_live referenceServer_documented mints live carries selected listed
  have isAdmin : rootRow.role ∈ usersRule.allowedRoles := by decide
  rw [if_pos isAdmin] at decision
  have forwarded : referenceServer.machine.answer rootState (.request listUsers) =
      .dispatched (.ok (.forward (some ⟨some rootRow.email, some rootRow.role⟩))) := by
    rw [answer_request]
    exact congrArg Outcome.dispatched decision
  obtain ⟨-, -, -, row, -, -, -, -, -, -, -, inTable, allowed, -, found⟩ :=
    forward_authorized referenceServer_documented referenceContext_acceptsOnlyOwn rootEntry_run
      requestAllowed selected listed forwarded
  exact ⟨row, inTable, allowed, found⟩

end Server

end DemoBase.Backend
