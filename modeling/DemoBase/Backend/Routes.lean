import DemoBase.Backend.UserDependencies
import DemoBase.Foundations.Scripted

/-!
Owns the routes of the application and every call under them that can fail for
a reason outside the program. A route is a `Scripted` computation, so that a
failure injected at one of its calls leaves the route exactly through the
`except` clauses around that call: the `try` of `add_new_user` and the one of
`AsyncDBClient.session`.

The dependency scope of FastAPI encloses the serialisation of the response. Its
commit at the end of a scope that did not fail comes after the response was sent
and is left out.
-/

set_option autoImplicit false

namespace DemoBase.Backend

open DemoBase.Foundations

inductive Body where
  | detail (text : String)
  | message (text : String)
  | plain (text : String)
  | json (value : Json)

structure Response where
  statusCode : Nat
  body : Body
  allowOrigin : Option String := none

/-- The calls that reach outside the program. `decode` is made by the auth
middleware, the others by routes. -/
inductive Site where
  | decode
  | encryptPassword
  | findUserByEmail
  | add
  | commit
  | verifyPassword
  | createAccessToken
  | getAllUsers
  | serializeResponse
deriving DecidableEq, Repr

abbrev Handling (Value : Type) := Scripted Site PyException Value

/-- The packages the application is built on, and what the framework answers by
itself: a validation error, an unknown path, a method that is not allowed. -/
structure Libraries where
  jwt : PyJWT
  pwdContext : CryptContext
  emailStr : EmailStr
  uuid4 : UUID4
  loginForm : Request → Option LoginRequestDto
  paginate : UserTable → Request → Except PyException Json
  validationError : Request → Response
  otherRoutes : Request → Response

/-- What handling one request finds outside the program. -/
structure World where
  users : UserTable
  now : Instant
  salt : String
  generated : Generated

namespace AuthService

/-- `add_new_user`, call by call. -/
def addNewUserCalls (self : AuthService) (world : World) (user : RegisterRequestDto) :
    Handling RegisterResponseDto := do
  let encryptedPassword ← Scripted.perform .encryptPassword
    (self.passwordHasher.encryptPassword user.password world.salt)
  let newUser : PendingUser := ⟨user.email, encryptedPassword, .user⟩
  let existing ← Scripted.perform .findUserByEmail (findUserByEmail world.users newUser.email)
  match existing with
  | some _ => Scripted.ofExcept (.error (.httpException (userExistsException newUser.email)))
  | none =>
      let _ ← Scripted.rethrow wrapCreateError do
        let _ ← Scripted.perform Site.add (Except.ok ())
        Scripted.perform Site.commit (world.users.insert (newUser.flush world.generated))
      pure ⟨world.generated.userUuid, newUser.email⟩

/-- `login`, call by call. -/
def loginCalls (self : AuthService) (world : World) (loginRequest : LoginRequestDto) :
    Handling LoginResponseDto := do
  let found ← Scripted.perform .findUserByEmail
    (findUserByEmail world.users loginRequest.username)
  match found with
  | none => Scripted.ofExcept (.error (.httpException invalidCredentialsException))
  | some user =>
      let accepted ← Scripted.perform .verifyPassword
        (self.passwordHasher.verifyPassword loginRequest.password user.hashedPassword)
      if accepted then
        let accessToken ← Scripted.perform .createAccessToken
          (self.tokenService.createAccessToken ⟨some user.email, some user.role⟩ world.now)
        pure ⟨accessToken, "bearer"⟩
      else Scripted.ofExcept (.error (.httpException invalidCredentialsException))

end AuthService

/-- `get_current_user_info`, call by call. -/
def currentUserCalls (world : World) (userTokenData : Option TokenData) :
    Handling (Option User) :=
  match userTokenData.bind TokenData.email with
  | none => pure none
  | some email => Scripted.perform .findUserByEmail (findUserByEmail world.users email)

namespace Libraries

variable (self : Libraries) (jwtConfig : JWTConfig) (world : World)

def tokenService : TokenService := ⟨self.jwt, jwtConfig⟩

def authService : AuthService := ⟨⟨self.pwdContext⟩, self.tokenService jwtConfig⟩

/-- The body `POST /auth/register` validates. -/
def registerBody (request : Request) : Option RegisterRequestDto :=
  match request.fields.lookup "email", request.fields.lookup "password" with
  | some email, some password => RegisterRequestDto.parse self.emailStr email password
  | _, _ => none

def registerUser (request : Request) : Handling Response :=
  match self.registerBody request with
  | none => pure (self.validationError request)
  | some user => Scripted.rethrow sessionScope do
      let response ← (self.authService jwtConfig).addNewUserCalls world user
      Scripted.perform .serializeResponse (.ok ⟨201,
        .json (.object [("id", .string response.id), ("email", .string response.email)]), none⟩)

def loginUser (request : Request) : Handling Response :=
  match self.loginForm request with
  | none => pure (self.validationError request)
  | some loginRequest => Scripted.rethrow sessionScope do
      let response ← (self.authService jwtConfig).loginCalls world loginRequest
      Scripted.perform .serializeResponse (.ok ⟨200,
        .json (.object [("access_token", .string response.accessToken),
          ("token_type", .string response.tokenType)]), none⟩)

def usersMe (request : Request) (userTokenData : Option TokenData) : Handling Response :=
  match oauth2Scheme request with
  | .error error => Scripted.ofExcept (.error error)
  | .ok _ => Scripted.rethrow sessionScope do
      let currentUser ← currentUserCalls world userTokenData
      Scripted.perform .serializeResponse
        ((GetUserResponseDto.serialize self.uuid4 currentUser).map fun dto => ⟨200,
          .json (.object [("user_uuid", .string dto.userUuid), ("email", .string dto.email),
            ("is_active", .bool dto.isActive), ("role", .string dto.role.value)]), none⟩)

def allUsers (request : Request) : Handling Response :=
  match oauth2Scheme request with
  | .error error => Scripted.ofExcept (.error error)
  | .ok _ => Scripted.rethrow sessionScope do
      let page ← Scripted.perform .getAllUsers (self.paginate world.users request)
      Scripted.perform .serializeResponse (.ok ⟨200, .json page, none⟩)

def healthCheck : Handling Response :=
  pure ⟨200, .json (.object [("status", .string "healthy")]), none⟩

/-- The routes `create_app` includes. -/
def router (request : Request) (userTokenData : Option TokenData) : Handling Response :=
  match request.method, request.path with
  | "GET", "/health" => healthCheck
  | "POST", "/api/v1/auth/register" => self.registerUser jwtConfig world request
  | "POST", "/api/v1/auth/login" => self.loginUser jwtConfig world request
  | "GET", "/api/v1/users/me" => self.usersMe world request userTokenData
  | "GET", "/api/v1/users" => self.allUsers world request
  | _, _ => pure (self.otherRoutes request)

end Libraries

/-! ### The routes compute what the services compute -/

namespace AuthService

variable (self : AuthService) (world : World)

theorem addNewUserCalls_result (user : RegisterRequestDto) :
    (self.addNewUserCalls world user).result =
      (self.addNewUser world.users user world.salt world.generated).2 := by
  unfold addNewUserCalls addNewUser buildUser
  simp only [Scripted.result_bind, Scripted.result_perform]
  cases encrypted : self.passwordHasher.encryptPassword user.password world.salt with
  | error error => rfl
  | ok encryptedPassword =>
      simp only [Except.bind, bind, checkAbsent]
      rcases findUserByEmail_total world.users user.email with
        ⟨absent, -⟩ | ⟨other, -, -, present⟩
      · simp only [absent, addAndCommit]
        cases inserted : world.users.insert
          ((⟨user.email, encryptedPassword, .user⟩ : PendingUser).flush world.generated) with
        | error error => rfl
        | ok table => rfl
      · simp only [present, Scripted.result_ofExcept]

theorem loginCalls_result (loginRequest : LoginRequestDto) :
    (self.loginCalls world loginRequest).result =
      self.login world.users world.now loginRequest := by
  unfold loginCalls login authenticate
  simp only [Scripted.result_bind, Scripted.result_perform]
  rcases findUserByEmail_total world.users loginRequest.username with
    ⟨absent, -⟩ | ⟨user, -, -, present⟩
  · simp [absent, Except.bind, bind, throw, throwThe, MonadExceptOf.throw]
  · simp only [present, Except.bind, bind]
    cases verified : self.passwordHasher.verifyPassword loginRequest.password
      user.hashedPassword with
    | error error => rfl
    | ok accepted => cases accepted <;> rfl

end AuthService

end DemoBase.Backend
