import DemoBase.EndToEnd.UsersMe
import DemoBase.Foundations.Dict
import DemoBase.Frontend.AuthInterceptor
import DemoBase.Frontend.LocalStorage

/-!
Owns one browser tab in production together with the backend it talks to. Other
people register, sign in and send requests meanwhile, the clock runs, and a request
of the tab is answered from the state the backend has when it gets there. Whoever the
tab shows has signed in from it, and a reload brings nobody back who signed out.
-/

set_option autoImplicit false

namespace DemoBase.EndToEnd

open DemoBase.Foundations DemoBase.Backend

open DemoBase.Frontend (UserInfo HttpErrorResponse Answer Browser SentRequest Tab TabAction
  adminRole adminGuard isPublicAuthPath logsOut stringOptions getStoredValue setStoredValue)

/-- The backend, the tab, the entry of its token in `localStorage`, and what is on its
way to the tab: answers to its logins and to its `/users/me` requests. -/
structure TabSystem where
  server : ServerState
  tab : Tab
  entry : Option String
  logins : List (Except PyException LoginResponseDto)
  answers : List (Nat × Answer)

/-- `elsewhere` is what other people do at the backend, and its clock. `flush` runs the
effect that stores the token. `fails` is any error answer, of the backend or of the
network; `succeeds` answers a request that `UserInfoService` does not wait for. -/
inductive SystemAction where
  | elsewhere (event : Event)
  | loadCurrentUser
  | logout
  | send (url : String)
  | flush
  | reload
  | submitLogin (loginRequest : LoginRequestDto)
  | loginArrives (index : Nat)
  | loginLost (index : Nat)
  | serve (id : Nat)
  | arrives (id : Nat)
  | fails (id : Nat) (error : HttpErrorResponse)
  | succeeds (id : Nat) (body : UserInfo)

namespace TabSystem

/-- The action calls `tokenStorage.remove`. -/
def removesToken (tab : Tab) : TabAction → Bool
  | .loginFails => true
  | .logout => true
  | .deliver id answer =>
      match tab.waiting id with
      | none => false
      | some request => logsOut request.url answer
  | _ => false

/-- The tab acts. Removing the token removes its entry at once, storing one waits for
the next flush. -/
def act (system : TabSystem) (action : TabAction) : TabSystem :=
  { system with
    tab := system.tab.step "" action
    entry := if removesToken system.tab action then none else system.entry }

/-- A token that is gone was removed by this action or was gone before. -/
theorem removesToken_of_gone {tab : Tab} {action : TabAction}
    (gone : (tab.step "" action).authService.tokenStorage = none) :
    removesToken tab action = true ∨ tab.authService.tokenStorage = none := by
  by_cases changes : tab.ChangesSession action
  · rcases changes with ⟨accessToken, rfl⟩ | rfl | rfl | ⟨request, id, error, rfl, status, waits,
      intercepted⟩
    · cases gone
    · exact Or.inl rfl
    · exact Or.inl rfl
    · left
      simp only [removesToken, waits]
      exact Tab.logsOut_iff.mpr ⟨error, rfl, status, intercepted⟩
  · right
    have stays : (tab.step "" action).authService.tokenStorage = tab.authService.tokenStorage :=
      Tab.token_next changes
    exact stays.symm.trans gone

end TabSystem

namespace Production

variable (self : Production)

/-- The answer to a `/users/me` request that gets to the backend in this state. -/
def usersMe (state : ServerState) (authorization : Option String) : Answer :=
  readUserInfo ((self.deployment state).respond none (usersMeRequest authorization))

/-- The backend answers a request of `UserInfoService`, once. -/
def serve (system : TabSystem) (id : Nat) : TabSystem :=
  match system.tab.waiting id, system.answers.lookup id with
  | some request, none =>
      if request.userInfo = none then system
      else
        { system with
          answers := (id, self.usersMe system.server request.authorization) :: system.answers }
  | _, _ => system

def step (system : TabSystem) : SystemAction → TabSystem
  | .elsewhere event => { system with server := self.server.machine.next system.server event }
  | .loadCurrentUser => system.act .loadCurrentUser
  | .logout => system.act .logout
  | .send url => system.act (.send url)
  | .flush =>
      { system with
        entry := setStoredValue system.entry system.tab.authService.tokenStorage
          (stringOptions none) }
  | .reload =>
      { system with
        tab := .opened (getStoredValue system.entry (stringOptions none))
        logins := [], answers := [] }
  | .submitLogin loginRequest =>
      { system with
        logins := system.logins ++
          [self.server.authService.login system.server.users system.server.now loginRequest] }
  | .loginArrives index =>
      match system.logins[index]? with
      | none => system
      | some (.ok response) =>
          { system.act (.loginSucceeds response.accessToken) with
            logins := system.logins.eraseIdx index }
      | some (.error _) =>
          { system.act .loginFails with logins := system.logins.eraseIdx index }
  | .loginLost index =>
      match system.logins[index]? with
      | none => system
      | some _ => { system.act .loginFails with logins := system.logins.eraseIdx index }
  | .serve id => self.serve system id
  | .arrives id =>
      match system.answers.lookup id with
      | none => system
      | some answer =>
          { system.act (.deliver id answer) with
            answers := system.answers.filter fun answered => answered.1 ≠ id }
  | .fails id error =>
      { system.act (.deliver id (.error error)) with
        answers := system.answers.filter fun answered => answered.1 ≠ id }
  | .succeeds id body =>
      match system.tab.waiting id with
      | none => system
      | some request =>
          if request.userInfo = none then system.act (.deliver id (.ok body)) else system

def machine : Machine TabSystem SystemAction Unit :=
  ⟨fun system action => (self.step system action, ())⟩

abbrev Past := Machine.History TabSystem SystemAction Unit

/-- A login submitted from the tab was granted this. -/
def SignedIn (past : Past) (grant : Server.Grant) : Prop :=
  ∃ answered ∈ past, ∃ loginRequest, answered.input = .submitLogin loginRequest ∧
    self.server.Mints (self.server.machine.entry answered.before.server (.login loginRequest)) grant

/-- The account behind a grant as the backend describes it. -/
def Describes (grant : Server.Grant) (user : UserInfo) : Prop :=
  ∃ userUuid, self.libraries.uuid4 grant.user.userUuid = some userUuid ∧
    user = userInfoOf ⟨userUuid, grant.user.email, grant.user.isActive, grant.user.role⟩

/-- The user is an account that signed in from the tab and still exists. -/
def Belongs (past : Past) (system : TabSystem) (user : UserInfo) : Prop :=
  ∃ grant, self.SignedIn past grant ∧ grant.user ∈ system.server.users.rows ∧
    self.Describes grant user

/-- The header carries a token that was granted to the tab. -/
def Carried (past : Past) (token : String) : Prop :=
  ∃ grant, self.SignedIn past grant ∧ grant.token = token

variable {self}

/-! ### Answers of the backend -/

section Answers

variable {state : ServerState} {answered : Server.Answered} {grant : Server.Grant}

theorem usersMe_eq (state : ServerState) (authorization : Option String) :
    self.usersMe state authorization =
      match self.server.authMiddleware.dispatch (usersMeRequest authorization) state.now with
      | .error _ => .error (errorOf ⟨500, .plain "Internal Server Error", none⟩)
      | .ok (.unauthorized detail) => .error (errorOf ⟨401, .detail detail, none⟩)
      | .ok (.forward userTokenData) =>
          answerOf self.config.errorMiddleware (getMe self.libraries.uuid4 state.users
            (usersMeRequest authorization) userTokenData) :=
  readUserInfo_respond (self.deployment state) authorization

/-- Without a header the backend returns nobody. -/
theorem usersMe_anonymous (user : UserInfo) : self.usersMe state none ≠ .ok user := by
  intro returned
  rw [usersMe_eq] at returned
  cases dispatched : self.server.authMiddleware.dispatch (usersMeRequest none) state.now with
  | error error => simp [dispatched] at returned
  | ok decision =>
      cases decision with
      | unauthorized detail => simp [dispatched] at returned
      | forward userTokenData =>
          have refused : getMe self.libraries.uuid4 state.users (usersMeRequest none)
              userTokenData = .error (.httpException ⟨401, "Not authenticated"⟩) := rfl
          simp [dispatched, refused, answerOf] at returned

theorem extractTokenFromHeader_of_mints (documented : self.libraries.jwt.Documented)
    (mints : self.server.Mints answered grant) :
    extractTokenFromHeader (usersMeRequest (some ("Bearer " ++ grant.token))) =
      some grant.token := by
  have isDocumented : self.server.authService.tokenService.jwt.Documented := documented
  obtain ⟨-, -, -, minted, -⟩ := mints
  rcases TokenService.createAccessToken_compact isDocumented minted with ⟨nonempty, solid⟩
  exact extractTokenFromHeader_bearer rfl nonempty solid

theorem token_ne_empty_of_mints (documented : self.libraries.jwt.Documented)
    (mints : self.server.Mints answered grant) : grant.token ≠ "" := by
  intro empty
  have isDocumented : self.server.authService.tokenService.jwt.Documented := documented
  obtain ⟨-, -, -, minted, -⟩ := mints
  apply (TokenService.createAccessToken_compact isDocumented minted).1
  rw [empty]
  rfl

/-- The middleware reads a granted token as its account's data while it is live, and
as no data afterwards. -/
theorem userTokenData_of_mints (documented : self.libraries.jwt.Documented)
    (mints : self.server.Mints answered grant) (now : Instant) :
    (self.server.Live grant now →
        self.server.authMiddleware.userTokenData
          (usersMeRequest (some ("Bearer " ++ grant.token))) now =
            .ok (some ⟨some grant.user.email, some grant.user.role⟩)) ∧
      (¬ self.server.Live grant now →
        self.server.authMiddleware.userTokenData
          (usersMeRequest (some ("Bearer " ++ grant.token))) now = .ok none) := by
  have isDocumented : self.server.authService.tokenService.jwt.Documented := documented
  unfold AuthMiddleware.userTokenData
  rw [extractTokenFromHeader_of_mints documented mints]
  exact mints.verifyToken isDocumented now

/-- The route finds the row of the account. -/
theorem getMe_of_mem (inTable : grant.user ∈ state.users.rows) :
    getMe self.libraries.uuid4 state.users (usersMeRequest (some ("Bearer " ++ grant.token)))
        (some ⟨some grant.user.email, some grant.user.role⟩) =
      GetUserResponseDto.serialize self.libraries.uuid4 (some grant.user) := by
  have passes : oauth2Scheme (usersMeRequest (some ("Bearer " ++ grant.token))) =
      .ok (strip grant.token) := oauth2Scheme_bearer rfl
  have found := getCurrentUserInfo_of_mem inTable (some grant.user.role)
  simp only [getMe, passes, found, bind, Except.bind]

/-- What the backend returns for a granted token describes the grant's account. -/
theorem usersMe_describes (documented : self.libraries.jwt.Documented)
    (mints : self.server.Mints answered grant) (inTable : grant.user ∈ state.users.rows)
    {user : UserInfo} (returned : self.usersMe state (some ("Bearer " ++ grant.token)) = .ok user) :
    self.Describes grant user := by
  rw [usersMe_eq] at returned
  have verdict := userTokenData_of_mints documented mints state.now
  cases dispatched : self.server.authMiddleware.dispatch
    (usersMeRequest (some ("Bearer " ++ grant.token))) state.now with
  | error error => simp [dispatched] at returned
  | ok decision =>
      cases decision with
      | unauthorized detail => simp [dispatched] at returned
      | forward forwarded =>
          simp only [dispatched] at returned
          have verified := AuthMiddleware.userTokenData_of_forward dispatched
          by_cases live : self.server.Live grant state.now
          · obtain rfl := Except.ok.inj (verified.symm.trans (verdict.1 live))
            rw [getMe_of_mem inTable] at returned
            cases canonical : self.libraries.uuid4 grant.user.userUuid with
            | none => simp [GetUserResponseDto.serialize, canonical, answerOf] at returned
            | some userUuid =>
                simp only [GetUserResponseDto.serialize, canonical, answerOf,
                  Except.ok.injEq] at returned
                exact ⟨userUuid, canonical, returned.symm⟩
          · obtain rfl := Except.ok.inj (verified.symm.trans (verdict.2 live))
            have nobody : ∀ dto, getMe self.libraries.uuid4 state.users
                (usersMeRequest (some ("Bearer " ++ grant.token))) none ≠ .ok dto := by
              intro dto loaded
              have passes : oauth2Scheme (usersMeRequest (some ("Bearer " ++ grant.token))) =
                  .ok (strip grant.token) := oauth2Scheme_bearer rfl
              simp [getMe, passes, getCurrentUserInfo, GetUserResponseDto.serialize, bind,
                Except.bind] at loaded
            cases loaded : getMe self.libraries.uuid4 state.users
                (usersMeRequest (some ("Bearer " ++ grant.token))) none with
            | ok dto => exact absurd loaded (nobody dto)
            | error error => simp [loaded, answerOf] at returned

/-- The answer of the shipped rules for a granted token: its account while the token is
live, and a 401 afterwards. -/
theorem usersMe_of_mints (documented : self.libraries.jwt.Documented)
    (rules : self.config.authMiddleware.pathAccess = defaultPathAccess)
    (mints : self.server.Mints answered grant) (inTable : grant.user ∈ state.users.rows) :
    (self.server.Live grant state.now →
        self.usersMe state (some ("Bearer " ++ grant.token)) =
          answerOf self.config.errorMiddleware
            (GetUserResponseDto.serialize self.libraries.uuid4 (some grant.user))) ∧
      (¬ self.server.Live grant state.now → ∃ error : HttpErrorResponse, error.status = 401 ∧
        self.usersMe state (some ("Bearer " ++ grant.token)) = .error error) := by
  have verdict := userTokenData_of_mints documented mints state.now
  have carries := extractTokenFromHeader_of_mints documented mints
  have selected : findMatchingPathConfig self.server.authMiddleware.config.pathAccess
      "/api/v1/users/me" = some usersMeRule := by
    show findMatchingPathConfig self.config.authMiddleware.pathAccess _ = _
    rw [rules, default_selects_usersMe]
  have listed : usersMeRule.Lists (usersMeRequest (some ("Bearer " ++ grant.token))) :=
    show "GET" ∈ usersMeRule.methods.map HttpMethod.value by decide
  have decided : ∀ userTokenData, self.server.authMiddleware.userTokenData
      (usersMeRequest (some ("Bearer " ++ grant.token))) state.now = .ok userTokenData →
      self.server.authMiddleware.dispatch
        (usersMeRequest (some ("Bearer " ++ grant.token))) state.now =
          .ok (enforce (usersMeRequest (some ("Bearer " ++ grant.token))) (some grant.token)
            userTokenData usersMeRule) := by
    intro userTokenData verified
    unfold AuthMiddleware.dispatch
    simp only [verified, carries]
    rw [show (usersMeRequest (some ("Bearer " ++ grant.token))).path = "/api/v1/users/me" from rfl,
      selected]
  constructor
  · intro live
    have allowed : isRoleAllowed (some grant.user.role) usersMeRule.allowedRoles = true := by
      cases grant.user.role <;> decide
    rw [usersMe_eq, decided _ (verdict.1 live)]
    simp only [enforce, listed, not_true, if_false, allowed, if_true, getMe_of_mem inTable]
  · intro dead
    rw [usersMe_eq, decided _ (verdict.2 dead)]
    simp only [enforce, listed, not_true, if_false]
    exact ⟨_, rfl, rfl⟩

end Answers

/-! ### Runs -/

/-- The tab freshly opened, in front of a backend in any state. -/
def opened (server : ServerState) : TabSystem := ⟨server, .opened none, none, [], []⟩

/-- Every token in the tab or on its way from or to it was granted to the tab, and
every user in it or on its way belongs to such a grant. -/
structure Consistent (production : Production) (past : Past) (system : TabSystem) : Prop where
  stored : ∀ token, system.tab.authService.tokenStorage = some token → production.Carried past token
  entry : ∀ text, system.entry = some text → production.Carried past text
  absent : system.tab.authService.tokenStorage = none → system.entry = none
  logins : ∀ response, .ok response ∈ system.logins → production.Carried past response.accessToken
  outgoing : ∀ request ∈ system.tab.outgoing, request.id < system.tab.sent ∧
    ∀ header, request.authorization = some header →
      ∃ token, header = "Bearer " ++ token ∧ production.Carried past token
  answers : ∀ answered ∈ system.answers, answered.1 < system.tab.sent ∧
    ∀ user, answered.2 = .ok user → production.Belongs past system user
  currentUser : ∀ user, system.tab.browser.userInfo.currentUser = some user →
    production.Belongs past system user
  inTable : ∀ grant, production.SignedIn past grant → grant.user ∈ system.server.users.rows

section Steps

variable {past : Past} {before after : TabSystem}
  {answered : Machine.Entry TabSystem SystemAction Unit}
  {grant : Server.Grant} {user : UserInfo} {token : String}

theorem SignedIn.cons (signedIn : self.SignedIn past grant) :
    self.SignedIn (answered :: past) grant := by
  obtain ⟨login, member, loginRequest, input, mints⟩ := signedIn
  exact ⟨login, List.mem_cons_of_mem _ member, loginRequest, input, mints⟩

theorem Carried.cons (carried : self.Carried past token) :
    self.Carried (answered :: past) token := by
  obtain ⟨grant, signedIn, isToken⟩ := carried
  exact ⟨grant, signedIn.cons, isToken⟩

theorem Belongs.cons (belongs : self.Belongs past before user)
    (persists : Server.RowsPersist before.server after.server) :
    self.Belongs (answered :: past) after user := by
  obtain ⟨grant, signedIn, inTable, describes⟩ := belongs
  exact ⟨grant, signedIn.cons, persists _ inTable, describes⟩

/-- Only a login submitted from the tab grants it a token. -/
theorem signedIn_cons_iff :
    self.SignedIn (answered :: past) grant ↔ self.SignedIn past grant ∨
      ∃ loginRequest, answered.input = .submitLogin loginRequest ∧
        self.server.Mints
          (self.server.machine.entry answered.before.server (.login loginRequest)) grant := by
  constructor
  · rintro ⟨login, member, loginRequest, input, mints⟩
    rcases List.mem_cons.mp member with rfl | older
    · exact Or.inr ⟨loginRequest, input, mints⟩
    · exact Or.inl ⟨login, older, loginRequest, input, mints⟩
  · rintro (signedIn | ⟨loginRequest, input, mints⟩)
    · exact signedIn.cons
    · exact ⟨answered, List.mem_cons_self, loginRequest, input, mints⟩

/-- A login finds the row it grants a token for. -/
theorem row_of_mints {state : ServerState} {loginRequest : LoginRequestDto}
    (mints : self.server.Mints (self.server.machine.entry state (.login loginRequest)) grant) :
    grant.user ∈ state.users.rows := by
  obtain ⟨submitted, -, authenticated, -, -⟩ := mints
  exact (mem_of_findUserByEmail (AuthService.authenticate_ok.mp authenticated).1).1

/-- A login the backend accepted grants its token to the tab. -/
theorem carried_of_login {loginRequest : LoginRequestDto} {response : LoginResponseDto}
    (returned : self.server.authService.login before.server.users before.server.now
      loginRequest = .ok response) :
    self.Carried (self.machine.entry before (.submitLogin loginRequest) :: past)
      response.accessToken := by
  rcases AuthService.login_ok.mp returned with ⟨user, authenticated, minted, -⟩
  refine ⟨⟨response.accessToken, user, before.server.now⟩, ?_, rfl⟩
  exact ⟨_, List.mem_cons_self, loginRequest, rfl,
    ⟨loginRequest, rfl, authenticated, minted, rfl⟩⟩

namespace Consistent

variable (consistent : self.Consistent past before)

include consistent

/-- Also what this action grants is granted for a row of the table. -/
theorem granted_inTable (action : SystemAction) : ∀ grant,
    self.SignedIn (self.machine.entry before action :: past) grant →
      grant.user ∈ before.server.users.rows := by
  intro grant signedIn
  rcases signedIn_cons_iff.mp signedIn with older | ⟨loginRequest, -, mints⟩
  · exact consistent.inTable grant older
  · exact row_of_mints mints

/-- An action of the tab that brings no token from outside, and as a user only one
that was answered. -/
theorem tab_step {answered : Machine.Entry TabSystem SystemAction Unit} (action : TabAction)
    (logins : List (Except PyException LoginResponseDto)) (answers : List (Nat × Answer))
    (fewerLogins : ∀ login ∈ logins, login ∈ before.logins)
    (fewerAnswers : ∀ answer ∈ answers, answer ∈ before.answers)
    (granted : ∀ token, action = .loginSucceeds token → self.Carried past token)
    (known : ∀ id user request, action = .deliver id (.ok user) →
      before.tab.waiting id = some request → request.userInfo ≠ none →
        self.Belongs past before user)
    (inTable : ∀ grant, self.SignedIn (answered :: past) grant →
      grant.user ∈ before.server.users.rows) :
    self.Consistent (answered :: past) { before.act action with logins, answers } := by
  have more : before.tab.sent ≤ (before.tab.step "" action).sent := before.tab.sent_le_step action
  have stays : Server.RowsPersist before.server before.server := fun _ member => member
  refine ⟨?_, ?_, ?_, ?_, ?_, ?_, ?_, inTable⟩
  · intro token stored
    rcases Tab.token_step stored with older | stores
    · exact (consistent.stored token older).cons
    · exact (granted token stores).cons
  · intro text isEntry
    by_cases removes : TabSystem.removesToken before.tab action = true
    · simp [TabSystem.act, removes] at isEntry
    · simp only [TabSystem.act, removes] at isEntry
      exact (consistent.entry text isEntry).cons
  · intro gone
    simp only [TabSystem.act]
    rcases TabSystem.removesToken_of_gone gone with removes | absent
    · rw [if_pos removes]
    · rw [consistent.absent absent, ite_self]
  · intro response member
    exact (consistent.logins response (fewerLogins _ member)).cons
  · intro request member
    rcases Tab.mem_outgoing_step member with older | sent
    · rcases consistent.outgoing request older with ⟨below, carries⟩
      refine ⟨Nat.lt_of_lt_of_le below more, fun header isHeader => ?_⟩
      obtain ⟨token, isBearer, carried⟩ := carries header isHeader
      exact ⟨token, isBearer, carried.cons⟩
    · rcases Tab.id_of_sends sent with ⟨isNext, grows⟩
      refine ⟨by show request.id < (before.tab.step "" action).sent; omega, ?_⟩
      intro header isHeader
      obtain ⟨token, stored, isBearer⟩ := Tab.bearer_of_sends sent isHeader
      exact ⟨token, isBearer, (consistent.stored token stored).cons⟩
  · intro answer member
    rcases consistent.answers answer (fewerAnswers _ member) with ⟨below, belongs⟩
    exact ⟨Nat.lt_of_lt_of_le below more, fun user isUser => (belongs user isUser).cons stays⟩
  · intro user shown
    rcases Tab.currentUser_step shown with older | ⟨id, request, delivers, waits, awaited⟩
    · exact (consistent.currentUser user older).cons stays
    · exact (known id user request delivers waits awaited).cons stays

/-- The tab leaves what is on its way to the tab alone. -/
theorem act (action : TabAction)
    (granted : ∀ token, action = .loginSucceeds token → self.Carried past token)
    (known : ∀ id user, action ≠ .deliver id (.ok user))
    (inTable : ∀ grant, self.SignedIn (answered :: past) grant →
      grant.user ∈ before.server.users.rows) :
    self.Consistent (answered :: past) (before.act action) :=
  consistent.tab_step action before.logins before.answers (fun _ member => member)
    (fun _ member => member) granted (fun id user _ delivers => absurd delivers (known id user))
    inTable

/-- A step that leaves the tab alone: it may bring new logins and answers. -/
theorem around (server : ServerState) (logins : List (Except PyException LoginResponseDto))
    (answers : List (Nat × Answer)) (persists : Server.RowsPersist before.server server)
    (newLogins : ∀ response, .ok response ∈ logins →
      .ok response ∈ before.logins ∨ self.Carried (answered :: past) response.accessToken)
    (newAnswers : ∀ answer ∈ answers, answer ∈ before.answers ∨
      answer.1 < before.tab.sent ∧
        ∀ user, answer.2 = .ok user → self.Belongs past before user)
    (inTable : ∀ grant, self.SignedIn (answered :: past) grant → grant.user ∈ server.users.rows) :
    self.Consistent (answered :: past) ⟨server, before.tab, before.entry, logins, answers⟩ := by
  refine ⟨?_, ?_, consistent.absent, ?_, ?_, ?_, ?_, inTable⟩
  · intro token stored
    exact (consistent.stored token stored).cons
  · intro text isEntry
    exact (consistent.entry text isEntry).cons
  · intro response member
    rcases newLogins response member with older | carried
    · exact (consistent.logins response older).cons
    · exact carried
  · intro request member
    rcases consistent.outgoing request member with ⟨below, carries⟩
    refine ⟨below, fun header isHeader => ?_⟩
    obtain ⟨token, isBearer, carried⟩ := carries header isHeader
    exact ⟨token, isBearer, carried.cons⟩
  · intro answer member
    rcases newAnswers answer member with older | ⟨below, belongs⟩
    · rcases consistent.answers answer older with ⟨below, belongs⟩
      exact ⟨below, fun user isUser => (belongs user isUser).cons persists⟩
    · exact ⟨below, fun user isUser => (belongs user isUser).cons persists⟩
  · intro user shown
    exact (consistent.currentUser user shown).cons persists

/-- What the backend answers a request of the tab with. -/
theorem belongs_of_answer (documented : self.libraries.jwt.Documented) {request : SentRequest}
    (member : request ∈ before.tab.outgoing)
    (returned : self.usersMe before.server request.authorization = .ok user) :
    self.Belongs past before user := by
  cases header : request.authorization with
  | none =>
      rw [header] at returned
      exact absurd returned (usersMe_anonymous user)
  | some header' =>
      obtain ⟨token, rfl, grant, signedIn, rfl⟩ :=
        (consistent.outgoing request member).2 header' header
      rw [header] at returned
      have inTable := consistent.inTable grant signedIn
      obtain ⟨login, -, loginRequest, -, mints⟩ := id signedIn
      exact ⟨grant, signedIn, inTable, usersMe_describes documented mints inTable returned⟩

/-- Answers to requests of the tab show users that belong to it. -/
theorem deliver {id : Nat} {answer : Answer}
    (known : ∀ user request, answer = .ok user → before.tab.waiting id = some request →
      request.userInfo ≠ none → self.Belongs past before user)
    (inTable : ∀ grant, self.SignedIn (answered :: past) grant →
      grant.user ∈ before.server.users.rows) :
    self.Consistent (answered :: past)
      { before.act (.deliver id answer) with
        answers := before.answers.filter fun answered => answered.1 ≠ id } := by
  refine consistent.tab_step (.deliver id answer) before.logins _ (fun _ member => member)
    (fun _ member => List.mem_of_mem_filter member) nofun ?_ inTable
  intro id' user request delivers waits awaited
  obtain ⟨rfl, rfl⟩ := TabAction.deliver.inj delivers
  exact known user request rfl waits awaited

/-- The effect stores the token of the tab. -/
theorem flush (inTable : ∀ grant, self.SignedIn (answered :: past) grant →
      grant.user ∈ before.server.users.rows) :
    self.Consistent (answered :: past) (self.step before .flush) := by
  have idle : self.Consistent (answered :: past) before :=
    consistent.around before.server before.logins before.answers (fun _ member => member)
      (fun _ member => Or.inl member) (fun _ member => Or.inl member) inTable
  refine ⟨idle.stored, ?_, ?_, idle.logins, idle.outgoing, idle.answers, idle.currentUser, inTable⟩
  · intro text isEntry
    change setStoredValue before.entry before.tab.authService.tokenStorage (stringOptions none) =
      some text at isEntry
    cases stored : before.tab.authService.tokenStorage with
    | none =>
        rw [stored] at isEntry
        cases isEntry
    | some token =>
        rw [stored] at isEntry
        obtain rfl := Option.some.inj isEntry
        exact idle.stored token stored
  · intro gone
    have gone : before.tab.authService.tokenStorage = none := gone
    show setStoredValue before.entry before.tab.authService.tokenStorage (stringOptions none) = none
    rw [gone]
    rfl

/-- A reload starts over with the token of the entry. -/
theorem reload (documented : self.libraries.jwt.Documented)
    (inTable : ∀ grant, self.SignedIn (answered :: past) grant →
      grant.user ∈ before.server.users.rows) :
    self.Consistent (answered :: past) (self.step before .reload) := by
  have solid : ∀ text, before.entry = some text → text ≠ "" := by
    intro text isEntry
    obtain ⟨grant, signedIn, rfl⟩ := consistent.entry text isEntry
    obtain ⟨login, -, loginRequest, -, mints⟩ := signedIn
    exact token_ne_empty_of_mints documented mints
  have restored : getStoredValue before.entry (stringOptions none) = before.entry := by
    cases isEntry : before.entry with
    | none => rfl
    | some text => simp [getStoredValue, stringOptions, solid text isEntry]
  have token : (self.step before .reload).tab.authService.tokenStorage = before.entry := restored
  refine ⟨?_, ?_, ?_, nofun, nofun, nofun, nofun, inTable⟩
  · intro stored isStored
    rw [token] at isStored
    exact (consistent.entry stored isStored).cons
  · intro text isEntry
    exact (consistent.entry text isEntry).cons
  · intro gone
    rw [token] at gone
    exact gone

/-- Each action keeps the system consistent. -/
theorem next (documented : self.libraries.jwt.Documented) (action : SystemAction) :
    self.Consistent (self.machine.entry before action :: past) (self.step before action) := by
  have inTable := consistent.granted_inTable action
  have idle : self.Consistent (self.machine.entry before action :: past) before :=
    consistent.around before.server before.logins before.answers (fun _ member => member)
      (fun _ member => Or.inl member) (fun _ member => Or.inl member) inTable
  cases action with
  | elsewhere event =>
      have persists : Server.RowsPersist before.server
          (self.server.machine.next before.server event) :=
        Server.rowsPersist_next before.server event
      exact consistent.around _ before.logins before.answers persists
        (fun _ member => Or.inl member) (fun _ member => Or.inl member)
        fun grant signedIn => persists _ (inTable grant signedIn)
  | loadCurrentUser => exact consistent.act .loadCurrentUser nofun nofun inTable
  | logout => exact consistent.act .logout nofun nofun inTable
  | send url => exact consistent.act (.send url) nofun nofun inTable
  | flush => exact consistent.flush inTable
  | reload => exact consistent.reload documented inTable
  | submitLogin loginRequest =>
      refine consistent.around before.server _ before.answers (fun _ member => member) ?_
        (fun _ member => Or.inl member) inTable
      intro response member
      rcases List.mem_append.mp member with older | submitted
      · exact Or.inl older
      · exact Or.inr (carried_of_login (List.mem_singleton.mp submitted).symm)
  | loginArrives index =>
      simp only [step]
      cases found : before.logins[index]? with
      | none => exact idle
      | some login =>
          have arrived := List.mem_of_getElem? found
          have fewer : ∀ other ∈ before.logins.eraseIdx index, other ∈ before.logins :=
            fun other member => List.mem_of_mem_eraseIdx member
          cases login with
          | ok response =>
              refine consistent.tab_step (.loginSucceeds response.accessToken) _ before.answers
                fewer (fun _ member => member) ?_ nofun inTable
              intro token stores
              obtain rfl := TabAction.loginSucceeds.inj stores
              exact consistent.logins response arrived
          | error error =>
              exact consistent.tab_step .loginFails _ before.answers fewer
                (fun _ member => member) nofun nofun inTable
  | loginLost index =>
      simp only [step]
      cases found : before.logins[index]? with
      | none => exact idle
      | some login =>
          exact consistent.tab_step .loginFails _ before.answers
            (fun _ member => List.mem_of_mem_eraseIdx member) (fun _ member => member) nofun nofun
            inTable
  | serve id =>
      simp only [step, serve]
      cases found : before.tab.waiting id with
      | none => exact idle
      | some request =>
          cases answered : before.answers.lookup id with
          | some answer => exact idle
          | none =>
              have member : request ∈ before.tab.outgoing := List.mem_of_find?_eq_some found
              have isId : request.id = id := by simpa using List.find?_some found
              by_cases waits : request.userInfo = none
              · simp only [if_pos waits]
                exact idle
              · simp only [if_neg waits]
                refine consistent.around before.server before.logins _ (fun _ member => member)
                  (fun _ member => Or.inl member) ?_ inTable
                intro answer isAnswer
                rcases List.mem_cons.mp isAnswer with rfl | older
                · right
                  refine ⟨isId ▸ (consistent.outgoing request member).1, ?_⟩
                  intro user returned
                  exact consistent.belongs_of_answer documented member returned
                · exact Or.inl older
  | arrives id =>
      simp only [step]
      cases found : before.answers.lookup id with
      | none => exact idle
      | some answer =>
          refine consistent.deliver ?_ inTable
          intro user request isUser _ _
          exact (consistent.answers _ (Dict.mem_of_lookup found)).2 user isUser
  | fails id error => exact consistent.deliver nofun inTable
  | succeeds id body =>
      simp only [step]
      cases found : before.tab.waiting id with
      | none => exact idle
      | some request =>
          by_cases waits : request.userInfo = none
          · simp only [if_pos waits]
            refine consistent.tab_step (.deliver id (.ok body)) before.logins before.answers
              (fun _ member => member) (fun _ member => member) nofun ?_ inTable
            intro id' user other delivers waiting awaited
            obtain ⟨rfl, -⟩ := TabAction.deliver.inj delivers
            rw [found] at waiting
            obtain rfl := Option.some.inj waiting
            exact absurd waits awaited
          · simp only [if_neg waits]
            exact idle

end Consistent

end Steps

section Runs

variable {start : ServerState} {past : Past} {system : TabSystem}

theorem consistent_of_run (documented : self.libraries.jwt.Documented)
    {environment : Machine.Environment TabSystem SystemAction Unit}
    (run : Machine.Run self.machine environment (opened start) past system) :
    self.Consistent past system := by
  apply run.invariant
  · refine ⟨nofun, nofun, fun _ => rfl, nofun, nofun, nofun, nofun, ?_⟩
    rintro grant ⟨login, impossible, -⟩
    cases impossible
  · intro earlier before action _ _ consistent
    exact consistent.next documented action

theorem role_of_describes {grant : Server.Grant} {user : UserInfo}
    (describes : self.Describes grant user) (isAdmin : user.role = adminRole) :
    grant.user.role = .admin := by
  obtain ⟨userUuid, -, rfl⟩ := describes
  have sameText : grant.user.role.value = adminRole := isAdmin
  revert sameText
  cases grant.user.role <;> decide

/-- In every run the user a tab shows is an account that signed in from this tab, as
its row in the table has it now; it need not be the account of the stored token. The
tab links to the user list, and the guard of the list lets pass, only where an
administrator signed in. -/
theorem shown_user_signed_in (documented : self.libraries.jwt.Documented)
    (run : Machine.Run self.machine Machine.unrestricted (opened start) past system) :
    (∀ user, system.tab.browser.userInfo.currentUser = some user →
      ∃ grant, self.SignedIn past grant ∧ grant.user ∈ system.server.users.rows ∧
        self.Describes grant user) ∧
    ((system.tab.browser.userInfo.isAdmin = true ∨
        ∃ answered ∈ system.answers, adminGuard answered.2 = .activate) →
      ∃ grant, self.SignedIn past grant ∧ grant.user ∈ system.server.users.rows ∧
        grant.user.role = .admin) := by
  have consistent := consistent_of_run documented run
  refine ⟨consistent.currentUser, ?_⟩
  rintro (isAdmin | ⟨answered, member, activates⟩)
  · unfold Frontend.UserInfoService.isAdmin at isAdmin
    cases shown : system.tab.browser.userInfo.currentUser with
    | none => simp [shown] at isAdmin
    | some user =>
        simp only [shown, beq_iff_eq] at isAdmin
        obtain ⟨grant, signedIn, inTable, describes⟩ := consistent.currentUser user shown
        exact ⟨grant, signedIn, inTable, role_of_describes describes isAdmin⟩
  · cases isAnswer : answered.2 with
    | error error => simp [isAnswer, adminGuard] at activates
    | ok user =>
        by_cases isAdmin : user.role = adminRole
        · obtain ⟨grant, signedIn, inTable, describes⟩ :=
            (consistent.answers answered member).2 user isAnswer
          exact ⟨grant, signedIn, inTable, role_of_describes describes isAdmin⟩
        · simp [isAnswer, adminGuard, isAdmin] at activates

/-- In every run each `Authorization` header on its way carries a token that a login
submitted from this tab was granted, of a row that is still in the table. -/
theorem header_carries_granted_token (documented : self.libraries.jwt.Documented)
    (run : Machine.Run self.machine Machine.unrestricted (opened start) past system)
    {request : SentRequest} (sent : request ∈ system.tab.outgoing) {header : String}
    (attached : request.authorization = some header) :
    ∃ grant, self.SignedIn past grant ∧ header = "Bearer " ++ grant.token ∧
      grant.user ∈ system.server.users.rows ∧
      ∀ now, self.server.authMiddleware.userTokenData (usersMeRequest (some header)) now =
        .ok (some ⟨some grant.user.email, some grant.user.role⟩) ∨
          self.server.authMiddleware.userTokenData (usersMeRequest (some header)) now =
            .ok none := by
  have consistent := consistent_of_run documented run
  obtain ⟨token, rfl, grant, signedIn, rfl⟩ :=
    (consistent.outgoing request sent).2 header attached
  refine ⟨grant, signedIn, rfl, consistent.inTable grant signedIn, fun now => ?_⟩
  obtain ⟨login, -, loginRequest, -, mints⟩ := signedIn
  have verdict := userTokenData_of_mints documented mints now
  by_cases live : self.server.Live grant now
  · exact Or.inl (verdict.1 live)
  · exact Or.inr (verdict.2 live)

/-- Without a token only the answer to a login brings one. -/
theorem signedOut_step {before : TabSystem} {action : SystemAction}
    (gone : before.tab.authService.tokenStorage = none) (noEntry : before.entry = none)
    (noLogin : ∀ index, action ≠ .loginArrives index) :
    (self.step before action).tab.authService.tokenStorage = none ∧
      (self.step before action).entry = none := by
  have acts : ∀ tabAction : TabAction, (∀ token, tabAction ≠ .loginSucceeds token) →
      (before.act tabAction).tab.authService.tokenStorage = none ∧
        (before.act tabAction).entry = none := by
    intro tabAction stores
    constructor
    · cases stored : (before.act tabAction).tab.authService.tokenStorage with
      | none => rfl
      | some token =>
          rcases Tab.token_step stored with older | isLogin
          · rw [gone] at older
            cases older
          · exact absurd isLogin (stores token)
    · simp only [TabSystem.act, noEntry, ite_self]
  cases action with
  | elsewhere event => exact ⟨gone, noEntry⟩
  | loadCurrentUser => exact acts .loadCurrentUser nofun
  | logout => exact acts .logout nofun
  | send url => exact acts (.send url) nofun
  | flush =>
      refine ⟨gone, ?_⟩
      simp only [step, gone]
      rfl
  | reload =>
      refine ⟨?_, noEntry⟩
      simp only [step, noEntry]
      rfl
  | submitLogin loginRequest => exact ⟨gone, noEntry⟩
  | loginArrives index => exact absurd rfl (noLogin index)
  | loginLost index =>
      simp only [step]
      split
      · exact ⟨gone, noEntry⟩
      · exact acts .loginFails nofun
  | serve id =>
      simp only [step, serve]
      split
      · split <;> exact ⟨gone, noEntry⟩
      · exact ⟨gone, noEntry⟩
  | arrives id =>
      simp only [step]
      split
      · exact ⟨gone, noEntry⟩
      · rename_i answer _
        exact acts (.deliver id answer) nofun
  | fails id error => exact acts (.deliver id (.error error)) nofun
  | succeeds id body =>
      simp only [step]
      split
      · exact ⟨gone, noEntry⟩
      · split
        · exact acts (.deliver id (.ok body)) nofun
        · exact ⟨gone, noEntry⟩

/-- A tab that is signed out stays signed out until a login is answered, whatever is
reloaded, flushed or delivered late; and one that is signed in is so after a reload
when its token was flushed before. -/
theorem reload_keeps_session (documented : self.libraries.jwt.Documented)
    (run : Machine.Run self.machine Machine.unrestricted (opened start) past system) :
    (system.tab.authService.tokenStorage = none → ∀ actions : List SystemAction,
      (∀ index, .loginArrives index ∉ actions) →
        (actions.foldl self.machine.next system).tab.authService.tokenStorage = none) ∧
    (self.step (self.step system .flush) .reload).tab.authService.tokenStorage =
      system.tab.authService.tokenStorage := by
  have consistent := consistent_of_run documented run
  constructor
  · intro gone actions noLogin
    have stays : ∀ (actions : List SystemAction) (before : TabSystem),
        (∀ index, .loginArrives index ∉ actions) →
        before.tab.authService.tokenStorage = none → before.entry = none →
          (actions.foldl self.machine.next before).tab.authService.tokenStorage = none := by
      intro actions
      induction actions with
      | nil => exact fun before _ absent _ => absent
      | cons action rest inductionHypothesis =>
          intro before noLogin absent noEntry
          have after : (self.step before action).tab.authService.tokenStorage = none ∧
              (self.step before action).entry = none :=
            signedOut_step absent noEntry fun index isLogin =>
              noLogin index (isLogin ▸ List.mem_cons_self)
          exact inductionHypothesis _
            (fun index member => noLogin index (List.mem_cons_of_mem _ member)) after.1 after.2
    exact stays actions system noLogin gone (consistent.absent gone)
  · show getStoredValue (setStoredValue system.entry system.tab.authService.tokenStorage
      (stringOptions none)) (stringOptions none) = _
    cases stored : system.tab.authService.tokenStorage with
    | none => rfl
    | some token =>
        obtain ⟨grant, signedIn, rfl⟩ := consistent.stored token stored
        obtain ⟨login, -, loginRequest, -, mints⟩ := signedIn
        have solid := token_ne_empty_of_mints documented mints
        have serialized : setStoredValue system.entry (some grant.token) (stringOptions none) =
            some grant.token := rfl
        rw [serialized]
        simp [getStoredValue, stringOptions, solid]

theorem elsewhere_foldl (events : List Event) (system : TabSystem) :
    (events.map SystemAction.elsewhere).foldl self.machine.next system =
      { system with server := events.foldl self.server.machine.next system.server } := by
  induction events generalizing system with
  | nil => rfl
  | cons event rest inductionHypothesis => exact inductionHypothesis _

theorem rowsPersist_foldl (events : List Event) (state : ServerState) :
    Server.RowsPersist state (events.foldl self.server.machine.next state) := by
  induction events generalizing state with
  | nil => exact fun _ member => member
  | cons event rest inductionHypothesis =>
      intro row member
      exact inductionHypothesis _ row (Server.rowsPersist_next state event row member)

/-- Asking for the user and getting the answer, while other people act. -/
def asking (id : Nat) (first second : List Event) : List SystemAction :=
  .loadCurrentUser :: first.map .elsewhere ++ .serve id :: second.map .elsewhere ++ [.arrives id]

/-- The state the request is answered from. -/
def servedFrom (self : Production) (system : TabSystem) (first : List Event) : ServerState :=
  first.foldl self.server.machine.next system.server

/-- The tab after it asked for the user of its token and was answered. -/
def afterAsking (self : Production) (system : TabSystem) (first second : List Event) : Tab :=
  ((asking system.tab.sent first second).foldl self.machine.next system).tab

/-- The request that asks for the user. -/
def askingRequest (system : TabSystem) : SentRequest :=
  ⟨system.tab.sent, Tab.usersMeUrl "",
    system.tab.authService.authorizationFor (Tab.usersMeUrl ""), some system.tab.browser.issued⟩

theorem waiting_asking (uncached : system.tab.browser.userInfo.request = none) :
    (system.tab.step "" .loadCurrentUser).waiting system.tab.sent =
      some (askingRequest system) := by
  rw [Tab.waiting, Tab.outgoing_loadCurrentUser_uncached "" uncached]
  simp [askingRequest]

/-- Asking ends with the answer delivered to the request just sent. -/
theorem afterAsking_eq (consistent : self.Consistent past system)
    (uncached : system.tab.browser.userInfo.request = none) (first second : List Event) :
    self.afterAsking system first second =
      (system.tab.step "" .loadCurrentUser).step "" (.deliver system.tab.sent
        (self.usersMe (self.servedFrom system first)
          (system.tab.authService.authorizationFor (Tab.usersMeUrl "")))) := by
  have fresh : system.answers.lookup system.tab.sent = none := by
    rw [List.lookup_eq_none_iff]
    intro answered member
    have below := (consistent.answers answered member).1
    simp only [bne_iff_ne, ne_eq]
    omega
  have served : self.step { system.act .loadCurrentUser with
        server := self.servedFrom system first } (.serve system.tab.sent) =
      { system.act .loadCurrentUser with
        server := self.servedFrom system first
        answers := (system.tab.sent, self.usersMe (self.servedFrom system first)
          (system.tab.authService.authorizationFor (Tab.usersMeUrl ""))) :: system.answers } := by
    simp only [step, serve, TabSystem.act, waiting_asking uncached, fresh]
    rfl
  simp only [afterAsking, asking, List.cons_append, List.foldl_cons, List.foldl_append,
    List.foldl_nil, elsewhere_foldl]
  change (self.step { self.step { system.act .loadCurrentUser with
      server := self.servedFrom system first } (.serve system.tab.sent) with
    server := second.foldl self.server.machine.next _ } (.arrives system.tab.sent)).tab = _
  rw [served]
  simp [step, TabSystem.act]

/-- The services once the answer came. -/
theorem browser_afterAsking (consistent : self.Consistent past system)
    (uncached : system.tab.browser.userInfo.request = none) (first second : List Event)
    {answer : Answer}
    (returned : self.usersMe (self.servedFrom system first)
      (system.tab.authService.authorizationFor (Tab.usersMeUrl "")) = answer)
    (passes : logsOut (Tab.usersMeUrl "") answer = false) :
    (self.afterAsking system first second).authService.tokenStorage =
        system.tab.authService.tokenStorage ∧
      (self.afterAsking system first second).browser.userInfo =
        (system.tab.browser.step .loadCurrentUser).userInfo.settle answer := by
  have browser : (self.afterAsking system first second).browser =
      (system.tab.browser.step .loadCurrentUser).step
        (.deliver system.tab.browser.issued answer) := by
    rw [afterAsking_eq consistent uncached, returned,
      Tab.step_deliver_browser "" (waiting_asking uncached)]
    simp only [askingRequest, Tab.intercepted, passes]
    rfl
  have inFlight : system.tab.browser.issued ∈
      (system.tab.browser.step .loadCurrentUser).pending := by
    rw [Browser.step_loadCurrentUser_uncached uncached]
    exact List.mem_cons_self
  constructor
  · show (self.afterAsking system first second).browser.authService.tokenStorage = _
    rw [browser, (Browser.deliver_keeps _ _).1]
    exact Browser.loadCurrentUser_keeps.1
  · rw [browser, Browser.userInfo_deliver inFlight]

theorem usersMe_not_public : isPublicAuthPath (Tab.usersMeUrl "") = false := by decide

/-- The account is returned, or its `user_uuid` is refused; neither logs out. -/
theorem logsOut_serialize (config : ErrorMiddlewareConfig) (uuid4 : UUID4) (user : User)
    (url : String) :
    logsOut url (answerOf config (GetUserResponseDto.serialize uuid4 (some user))) = false := by
  cases canonical : uuid4 user.userUuid with
  | none =>
      simp [GetUserResponseDto.serialize, canonical, answerOf, errorOf, sessionScope,
        failureResponse_statusCode, failureStatus, logsOut]
  | some userUuid => simp [GetUserResponseDto.serialize, canonical, answerOf, logsOut]

theorem authorizationFor_of_stored (documented : self.libraries.jwt.Documented)
    {answered : Server.Answered} {grant : Server.Grant} (mints : self.server.Mints answered grant)
    (stored : system.tab.authService.tokenStorage = some grant.token) :
    system.tab.authService.authorizationFor (Tab.usersMeUrl "") =
      some ("Bearer " ++ grant.token) := by
  have nonempty := token_ne_empty_of_mints documented mints
  simp only [Frontend.AuthService.authorizationFor, usersMe_not_public,
    Frontend.AuthService.getAuthorizationHeader, stored, if_neg nonempty]
  rfl

section Asking

variable {grant : Server.Grant} (documented : self.libraries.jwt.Documented)
  (rules : self.config.authMiddleware.pathAccess = defaultPathAccess)
  (consistent : self.Consistent past system) (signedIn : self.SignedIn past grant)
  (stored : system.tab.authService.tokenStorage = some grant.token)
  (uncached : system.tab.browser.userInfo.request = none) (first second : List Event)

include documented rules consistent signedIn stored uncached

/-- While its token is live the account is shown and stays signed in. -/
theorem afterAsking_of_live (live : self.server.Live grant (self.servedFrom system first).now) :
    (self.afterAsking system first second).authService.tokenStorage = some grant.token ∧
      ∀ user, self.Describes grant user →
        (self.afterAsking system first second).browser.userInfo.currentUser = some user := by
  have inTable : grant.user ∈ (self.servedFrom system first).users.rows :=
    rowsPersist_foldl first system.server _ (consistent.inTable grant signedIn)
  obtain ⟨login, -, loginRequest, -, mints⟩ := signedIn
  have answered := (usersMe_of_mints documented rules mints inTable).1 live
  rw [← authorizationFor_of_stored documented mints stored] at answered
  have services := browser_afterAsking consistent uncached first second answered
    (logsOut_serialize self.config.errorMiddleware self.libraries.uuid4 grant.user _)
  refine ⟨services.1.trans stored, ?_⟩
  rintro user ⟨userUuid, canonical, rfl⟩
  rw [services.2]
  simp [GetUserResponseDto.serialize, canonical, answerOf, Frontend.UserInfoService.settle]

/-- An expired token logs the tab out. -/
theorem afterAsking_of_expired
    (expired : ¬ self.server.Live grant (self.servedFrom system first).now) :
    Tab.LoggedOut (self.afterAsking system first second).authService := by
  have inTable : grant.user ∈ (self.servedFrom system first).users.rows :=
    rowsPersist_foldl first system.server _ (consistent.inTable grant signedIn)
  obtain ⟨login, -, loginRequest, -, mints⟩ := signedIn
  obtain ⟨error, status, answered⟩ := (usersMe_of_mints documented rules mints inTable).2 expired
  rw [← authorizationFor_of_stored documented mints stored] at answered
  rw [afterAsking_eq consistent uncached, answered]
  exact Tab.loggedOut_next ⟨_, error, rfl, status, waiting_asking uncached, usersMe_not_public⟩

end Asking

/-- From every state a tab can reach with a token and no request cached, asking for
the user settles the session, whatever other people do meanwhile: while the token is
live the tab shows its account, and once it expired the tab is logged out. -/
theorem asking_settles_session (documented : self.libraries.jwt.Documented)
    (rules : self.config.authMiddleware.pathAccess = defaultPathAccess)
    (run : Machine.Run self.machine Machine.unrestricted (opened start) past system)
    {token : String} (stored : system.tab.authService.tokenStorage = some token)
    (uncached : system.tab.browser.userInfo.request = none) (first second : List Event) :
    (∃ grant, self.SignedIn past grant ∧ grant.token = token) ∧
      ∀ grant, self.SignedIn past grant → grant.token = token →
        (self.server.Live grant (self.servedFrom system first).now →
          (self.afterAsking system first second).authService.tokenStorage = some token ∧
          ∀ user, self.Describes grant user →
            (self.afterAsking system first second).browser.userInfo.currentUser = some user) ∧
        (¬ self.server.Live grant (self.servedFrom system first).now →
          Tab.LoggedOut (self.afterAsking system first second).authService) := by
  have consistent := consistent_of_run documented run
  refine ⟨consistent.stored token stored, ?_⟩
  rintro grant signedIn rfl
  constructor
  · exact afterAsking_of_live documented rules consistent signedIn stored uncached first second
  · exact afterAsking_of_expired documented rules consistent signedIn stored uncached first second

end Runs

/-! ### An administrator signs in -/

private def reference : Production := ⟨referenceDeployment.config, referenceLibraries⟩

private theorem reference_documented : reference.libraries.jwt.Documented := referenceJWT_documented

private def rootUserInfo : UserInfo :=
  userInfoOf ⟨Server.rootRow.userUuid, Server.rootRow.email, true, .admin⟩

private theorem exists_signedIn : ∃ past system grant,
    Machine.Run reference.machine Machine.unrestricted (opened Server.rootState) past system ∧
      reference.SignedIn past grant ∧ grant.user = Server.rootRow ∧ grant.issuedAt = 0 ∧
      system.server = Server.rootState ∧
      system.tab.authService.tokenStorage = some grant.token ∧
      system.tab.browser.userInfo.request = none := by
  obtain ⟨token, mints⟩ := Server.rootEntry_mints
  have accepted : reference.server.authService.login Server.rootState.users Server.rootState.now
      Server.rootLogin = .ok ⟨token, "bearer"⟩ := by
    obtain ⟨loginRequest, input, authenticated, minted, -⟩ := id mints
    obtain rfl := Event.login.inj input
    exact AuthService.login_ok.mpr ⟨Server.rootRow, authenticated, minted, rfl⟩
  have submitted : reference.step (opened Server.rootState) (.submitLogin Server.rootLogin) =
      ⟨Server.rootState, .opened none, none, [.ok ⟨token, "bearer"⟩], []⟩ := by
    simp only [step, opened, accepted, List.nil_append]
  have arrived : reference.step
      (reference.step (opened Server.rootState) (.submitLogin Server.rootLogin))
        (.loginArrives 0) =
      ⟨Server.rootState, (Tab.opened none).step "" (.loginSucceeds token), none, [], []⟩ := by
    rw [submitted]
    rfl
  have started : Machine.Run reference.machine Machine.unrestricted (opened Server.rootState) []
      (opened Server.rootState) := .start
  have run := (started.step (.submitLogin Server.rootLogin) trivial).step (.loginArrives 0) trivial
  rw [show reference.machine.next (reference.machine.next (opened Server.rootState)
    (.submitLogin Server.rootLogin)) (.loginArrives 0) = _ from arrived] at run
  refine ⟨_, _, ⟨token, Server.rootRow, 0⟩, run, ?_, rfl, rfl, rfl, rfl, rfl⟩
  exact ⟨_, List.mem_cons_of_mem _ List.mem_cons_self, Server.rootLogin, rfl, mints⟩

private theorem rootGrant_live {grant : Server.Grant} (issued : grant.issuedAt = 0) :
    reference.server.Live grant 0 := by
  unfold Server.Live
  rw [issued]
  decide

private theorem rootGrant_describes {grant : Server.Grant} (isRoot : grant.user = Server.rootRow) :
    reference.Describes grant rootUserInfo := by
  refine ⟨Server.rootRow.userUuid, ?_, ?_⟩
  · rw [isRoot]
    rfl
  · rw [isRoot]
    rfl

/-- The tokens of this deployment live for half an hour. -/
theorem asking_settles_session_root : ∃ system : TabSystem,
    (reference.afterAsking system [] []).browser.userInfo.currentUser = some rootUserInfo ∧
      Tab.LoggedOut (reference.afterAsking system [.tick 1800000000] []).authService := by
  obtain ⟨past, system, grant, run, signedIn, isRoot, issued, server, stored,
    uncached⟩ := exists_signedIn
  have settles := fun events => (asking_settles_session reference_documented rfl run stored uncached
    events []).2 grant signedIn rfl
  refine ⟨system, ?_, ?_⟩
  · refine ((settles []).1 ?_).2 rootUserInfo (rootGrant_describes isRoot)
    rw [servedFrom, server]
    exact rootGrant_live issued
  · apply (settles [.tick 1800000000]).2
    rw [servedFrom, server]
    unfold Server.Live
    rw [issued]
    decide

theorem shown_user_signed_in_root : ∃ past, ∃ system : TabSystem, ∃ grant,
    system.tab.browser.userInfo.currentUser = some rootUserInfo ∧
      reference.SignedIn past grant ∧ grant.user ∈ system.server.users.rows ∧
      reference.Describes grant rootUserInfo := by
  obtain ⟨past, system, grant, run, signedIn, isRoot, issued, server, stored,
    uncached⟩ := exists_signedIn
  have live : reference.server.Live grant (reference.servedFrom system []).now := by
    rw [servedFrom, server]
    exact rootGrant_live issued
  have consistent := consistent_of_run reference_documented run
  have shown := (afterAsking_of_live reference_documented rfl consistent signedIn stored uncached
    [] [] live).2 rootUserInfo (rootGrant_describes isRoot)
  have asked := reference.machine.run_execute run
    (reference.machine.allows_unrestricted (asking system.tab.sent [] []))
  rw [Machine.execute_state] at asked
  obtain ⟨shownGrant, shownSignedIn, inTable, describes⟩ :=
    (shown_user_signed_in reference_documented asked).1 rootUserInfo shown
  exact ⟨_, _, shownGrant, shown, shownSignedIn, inTable, describes⟩

theorem header_carries_granted_token_root : ∃ past, ∃ system : TabSystem, ∃ grant,
    reference.SignedIn past grant ∧ grant.user ∈ system.server.users.rows ∧
      ∃ request ∈ system.tab.outgoing, request.authorization = some ("Bearer " ++ grant.token) := by
  obtain ⟨past, system, grant, run, signedIn, isRoot, issued, server, stored,
    uncached⟩ := exists_signedIn
  obtain ⟨login, -, loginRequest, -, mints⟩ := id signedIn
  have attached : (askingRequest system).authorization = some ("Bearer " ++ grant.token) :=
    authorizationFor_of_stored reference_documented mints stored
  have asked := run.step .loadCurrentUser trivial
  have sent : askingRequest system ∈
      (reference.machine.next system .loadCurrentUser).tab.outgoing :=
    List.mem_of_find?_eq_some (waiting_asking uncached)
  obtain ⟨carried, carriedSignedIn, sameHeader, inTable, -⟩ :=
    header_carries_granted_token reference_documented asked sent attached
  exact ⟨_, _, carried, carriedSignedIn, inTable, askingRequest system, sent,
    attached.trans (congrArg some sameHeader)⟩

theorem reload_keeps_session_root : ∃ system : TabSystem, ∃ token,
    system.tab.authService.tokenStorage = some token ∧
      (reference.step (reference.step system .flush) .reload).tab.authService.tokenStorage =
        some token := by
  obtain ⟨past, system, grant, run, -, -, -, -, stored, -⟩ := exists_signedIn
  exact ⟨system, grant.token, stored,
    (reload_keeps_session reference_documented run).2.trans stored⟩

end Production

end DemoBase.EndToEnd
