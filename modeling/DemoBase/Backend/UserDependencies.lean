import DemoBase.Backend.AuthMiddleware

/-!
Owns the dependencies and response model of the `/users` routes: the
`oauth2_scheme` that reads the header a second time, `get_current_user_info`
over the data the middleware left in `request.state`, and `GetUserResponseDto`.
-/

set_option autoImplicit false

namespace DemoBase.Backend

/-- `OAuth2PasswordBearer`: unlike the middleware it splits the header at the
first space only, and takes everything after it, stripped, as the token. -/
def oauth2Scheme (request : Request) : Except PyException String :=
  match request.authorization with
  | none => .error (.httpException ⟨401, "Not authenticated"⟩)
  | some authorization =>
      if lower (beforeSpace authorization) = "bearer" then
        .ok (strip
          (String.ofList (authorization.toList.drop ((beforeSpace authorization).length + 1))))
      else .error (.httpException ⟨401, "Not authenticated"⟩)

/-- The body of `get_current_user_info`. -/
def getCurrentUserInfo (users : UserTable) (userTokenData : Option TokenData) :
    Except PyException (Option User) :=
  match userTokenData with
  | none => .ok none
  | some tokenData =>
      match tokenData.email with
      | none => .ok none
      | some email => findUserByEmail users email

structure GetUserResponseDto where
  userUuid : String
  email : String
  isActive : Bool
  role : UserRole
deriving DecidableEq, Repr

/-- Pydantic's `UUID4` field: the canonical text of a version 4 UUID, or a
validation error. -/
abbrev UUID4 := String → Option String

/-- Response validation of the value a route returns. A missing user and a
`user_uuid` that is no version 4 UUID are server errors. -/
def GetUserResponseDto.serialize (uuid4 : UUID4) (user : Option User) :
    Except PyException GetUserResponseDto :=
  match user with
  | none => .error (.other "ResponseValidationError")
  | some user =>
      match uuid4 user.userUuid with
      | none => .error (.other "ResponseValidationError")
      | some userUuid => .ok ⟨userUuid, user.email, user.isActive, user.role⟩

/-- `GET /users/me` after the middleware forwarded it. -/
def getMe (uuid4 : UUID4) (users : UserTable) (request : Request)
    (userTokenData : Option TokenData) : Except PyException GetUserResponseDto := do
  let _ ← oauth2Scheme request
  let currentUser ← getCurrentUserInfo users userTokenData
  GetUserResponseDto.serialize uuid4 currentUser

theorem getCurrentUserInfo_of_mem {users : UserTable} {user : User} (member : user ∈ users.rows)
    (role : Option UserRole) :
    getCurrentUserInfo users (some ⟨some user.email, role⟩) = .ok (some user) :=
  findUserByEmail_of_mem member

theorem serialize_role {uuid4 : UUID4} {user : User} {dto : GetUserResponseDto}
    (serialized : GetUserResponseDto.serialize uuid4 (some user) = .ok dto) :
    dto.role = user.role := by
  unfold GetUserResponseDto.serialize at serialized
  cases canonical : uuid4 user.userUuid with
  | none => simp [canonical] at serialized
  | some userUuid =>
      simp only [canonical, Except.ok.injEq] at serialized
      rw [← serialized]

/-! ### The header a client sends -/

/-- Both readers of the header find the token in `Bearer <token>`. -/
theorem extractTokenFromHeader_bearer {request : Request} {token : String}
    (header : request.authorization = some ("Bearer " ++ token))
    (nonempty : token.toList ≠ []) (solid : ∀ character ∈ token.toList, isSpace character = false) :
    extractTokenFromHeader request = some token := by
  have spelled : "Bearer " = "Bearer" ++ " " := by decide
  have pieces : split ("Bearer " ++ token) = ["Bearer", token] := by
    have checked : "Bearer".toList.all (fun character => isSpace character = false) = true := by
      decide
    have schemeSolid : ∀ character ∈ "Bearer".toList, isSpace character = false := by
      simpa only [List.all_eq_true, decide_eq_true_eq] using checked
    rw [spelled]
    exact split_pair schemeSolid (by decide) solid nonempty
  have scheme : lower "Bearer" = "bearer" := by decide
  unfold extractTokenFromHeader
  simp only [header, pieces, scheme, if_true]

theorem oauth2Scheme_bearer {request : Request} {token : String}
    (header : request.authorization = some ("Bearer " ++ token)) :
    oauth2Scheme request = .ok (strip token) := by
  have text : ("Bearer " ++ token).toList = "Bearer".toList ++ ' ' :: token.toList := by
    simp
  have scheme : beforeSpace ("Bearer " ++ token) = "Bearer" := by
    unfold beforeSpace
    rw [text]
    rfl
  have bearer : lower "Bearer" = "bearer" := by decide
  unfold oauth2Scheme
  simp only [header, scheme, bearer, if_true, text]
  rw [show "Bearer".toList ++ ' ' :: token.toList = ("Bearer".toList ++ [' ']) ++ token.toList by
    simp]
  rw [List.drop_left' (by decide)]
  simp

end DemoBase.Backend
