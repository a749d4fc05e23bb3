import DemoBase.Backend.Session
import DemoBase.Frontend.Guards

/-!
Owns the agreement between the frontend's admin guard and the backend's access
rules. The guard reads the role of the user row, the middleware reads the role
claim of the token; both are the role of the row the token was granted for.
-/

set_option autoImplicit false

namespace DemoBase.EndToEnd

open DemoBase.Foundations DemoBase.Backend

open DemoBase.Frontend (UserInfo adminGuard adminRole)

/-- The JSON body of a `GetUserResponseDto`, as the frontend reads it. -/
def userInfoOf (dto : GetUserResponseDto) : UserInfo where
  userUuid := dto.userUuid
  email := dto.email
  isActive := dto.isActive
  role := dto.role.value

/-- A `GET` of a path with the header the frontend builds from its token. The
query string is any. -/
def IsGet (request : Request) (path token : String) : Prop :=
  request.method = "GET" ∧ request.path = path ∧
    request.authorization = some ("Bearer " ++ token)

theorem adminGuard_userInfoOf (dto : GetUserResponseDto) :
    adminGuard (.ok (userInfoOf dto)) = .activate ↔ dto.role = .admin := by
  have sameText : dto.role.value = adminRole ↔ dto.role = .admin := by
    cases dto.role <;> decide
  simp only [adminGuard, userInfoOf, sameText]
  by_cases isAdmin : dto.role = .admin
  · simp [isAdmin]
  · simp [isAdmin]

/-- The deployment with the shipped access rules. -/
abbrev shipped (authService : AuthService) : Server := ⟨authService, defaultPathAccess⟩

section Grants

variable {authService : AuthService} {answered : Server.Answered} {grant : Server.Grant}
  {now : Instant} {request : Request}

theorem extractTokenFromHeader_of_isGet
    (documented : authService.tokenService.jwt.Documented)
    (mints : (shipped authService).Mints answered grant) {path : String}
    (get : IsGet request path grant.token) :
    extractTokenFromHeader request = some grant.token := by
  obtain ⟨-, -, -, minted, -⟩ := mints
  rcases TokenService.createAccessToken_compact documented minted with ⟨nonempty, solid⟩
  exact extractTokenFromHeader_bearer get.2.2 nonempty solid

/-- A live grant reaches `GET /users/me` whatever the role of its row. -/
theorem usersMe_forwarded (documented : authService.tokenService.jwt.Documented)
    (mints : (shipped authService).Mints answered grant)
    (live : (shipped authService).Live grant now)
    (get : IsGet request "/api/v1/users/me" grant.token) :
    (shipped authService).authMiddleware.dispatch request now =
      .ok (.forward (some ⟨some grant.user.email, some grant.user.role⟩)) := by
  have carries := extractTokenFromHeader_of_isGet documented mints get
  have selected : findMatchingPathConfig defaultPathAccess request.path = some usersMeRule := by
    rw [get.2.1, default_selects_usersMe]
  have listed : usersMeRule.Lists request := by
    unfold PathAccessConfig.Lists
    rw [get.1]
    decide
  have everyRole : grant.user.role ∈ usersMeRule.allowedRoles := by
    cases grant.user.role <;> decide
  have decision := Server.dispatch_of_live documented mints live carries selected listed
  rwa [if_pos everyRole] at decision

/-- A live grant reaches `GET /users` exactly when its row is an admin. -/
theorem users_forwarded_iff (documented : authService.tokenService.jwt.Documented)
    (mints : (shipped authService).Mints answered grant)
    (live : (shipped authService).Live grant now)
    (get : IsGet request "/api/v1/users" grant.token) :
    (∃ forwarded, (shipped authService).authMiddleware.dispatch request now =
      .ok (.forward forwarded)) ↔ grant.user.role = .admin := by
  have carries := extractTokenFromHeader_of_isGet documented mints get
  have selected : findMatchingPathConfig defaultPathAccess request.path = some usersRule := by
    rw [get.2.1, default_selects_users]
  have listed : usersRule.Lists request := by
    unfold PathAccessConfig.Lists
    rw [get.1]
    decide
  have adminOnly : grant.user.role ∈ usersRule.allowedRoles ↔ grant.user.role = .admin := by
    cases grant.user.role <;> decide
  have decision := Server.dispatch_of_live documented mints live carries selected listed
  rw [decision, ← adminOnly]
  by_cases allowed : grant.user.role ∈ usersRule.allowedRoles
  · rw [if_pos allowed]
    exact ⟨fun _ => allowed, fun _ => ⟨_, rfl⟩⟩
  · rw [if_neg allowed]
    constructor
    · intro forwarded
      obtain ⟨data, impossible⟩ := forwarded
      cases impossible
    · intro isAdmin
      exact absurd isAdmin allowed

end Grants

/-- For every unexpired token a run issued, `/users/me` is forwarded and finds
the token's row, and the guard fed the user it returns activates exactly when
the middleware forwards `GET /users` with that token. -/
theorem adminGuard_agrees (authService : AuthService) (uuid4 : UUID4)
    (documented : authService.tokenService.jwt.Documented)
    {environment : Machine.Environment ServerState Event Outcome} {start state : ServerState}
    {past : Server.Past}
    (run : Machine.Run (shipped authService).machine environment start past state)
    {answered : Server.Answered} (issued : answered ∈ past) {loginRequest : LoginRequestDto}
    (input : answered.input = .login loginRequest) {response : LoginResponseDto}
    (output : answered.output = .loggedIn (.ok response))
    (unexpired : state.now < authService.tokenService.rejectedFrom answered.before.now) :
    ∃ row ∈ state.users.rows, ∃ forwarded, ∀ me : Request,
      IsGet me "/api/v1/users/me" response.accessToken →
        (shipped authService).authMiddleware.dispatch me state.now = .ok (.forward forwarded) ∧
        getCurrentUserInfo state.users forwarded = .ok (some row) ∧
        (∀ userUuid, uuid4 row.userUuid = some userUuid →
          ∃ dto, getMe uuid4 state.users me forwarded = .ok dto) ∧
        ∀ dto, getMe uuid4 state.users me forwarded = .ok dto →
          ∀ list : Request, IsGet list "/api/v1/users" response.accessToken →
            (adminGuard (.ok (userInfoOf dto)) = .activate ↔
              ∃ data, (shipped authService).authMiddleware.dispatch list state.now =
                .ok (.forward data)) := by
  rcases Server.mints_of_output run issued input output with ⟨grant, mints, sameToken⟩
  have live : (shipped authService).Live grant state.now := by
    have issuedAt := mints.issuedAt
    unfold Server.Live
    rw [issuedAt]
    exact unexpired
  rcases mints.row run issued with ⟨-, inTable⟩
  have found := getCurrentUserInfo_of_mem inTable (some grant.user.role)
  refine ⟨grant.user, inTable, some ⟨some grant.user.email, some grant.user.role⟩, ?_⟩
  intro me getUsersMe
  rw [← sameToken] at getUsersMe
  have passesScheme := oauth2Scheme_bearer getUsersMe.2.2
  have returned : getMe uuid4 state.users me (some ⟨some grant.user.email, some grant.user.role⟩) =
      GetUserResponseDto.serialize uuid4 (some grant.user) := by
    simp only [getMe, passesScheme, found, bind, Except.bind]
  refine ⟨usersMe_forwarded documented mints live getUsersMe, found, ?_, ?_⟩
  · intro userUuid canonical
    refine ⟨⟨userUuid, grant.user.email, grant.user.isActive, grant.user.role⟩, ?_⟩
    rw [returned]
    simp only [GetUserResponseDto.serialize, canonical]
  · intro dto loaded list getUsers
    rw [← sameToken] at getUsers
    rw [returned] at loaded
    rw [adminGuard_userInfoOf, serialize_role loaded,
      users_forwarded_iff documented mints live getUsers]

theorem adminGuard_agrees_rootLogin :
    ∃ token forwarded, ∀ me, IsGet me "/api/v1/users/me" token →
      Server.referenceServer.authMiddleware.dispatch me 0 = .ok (.forward forwarded) ∧
        ∃ dto, getMe some Server.rootState.users me forwarded = .ok dto ∧
          ∀ list, IsGet list "/api/v1/users" token →
            (adminGuard (.ok (userInfoOf dto)) = .activate ↔
              ∃ data, Server.referenceServer.authMiddleware.dispatch list 0 =
                .ok (.forward data)) := by
  rcases Server.rootEntry_mints with ⟨token, mints⟩
  have output := mints.output Server.rootEntry_run List.mem_cons_self
  have unexpired : Server.rootState.now <
      referenceAuthService.tokenService.rejectedFrom Server.rootEntry.before.now := by
    show (0 : Int) < referenceTokenService.rejectedFrom 0
    decide
  obtain ⟨row, -, forwarded, agrees⟩ :=
    adminGuard_agrees referenceAuthService some referenceJWT_documented Server.rootEntry_run
      List.mem_cons_self rfl output unexpired
  refine ⟨token, forwarded, ?_⟩
  intro me getUsersMe
  rcases agrees me getUsersMe with ⟨reached, -, loads, guards⟩
  rcases loads row.userUuid rfl with ⟨dto, loaded⟩
  exact ⟨reached, dto, loaded, guards dto loaded⟩

end DemoBase.EndToEnd
