import DemoBase.Backend.TokenService
import DemoBase.Backend.UserRepository

/-!
Owns `AuthService`: registration and login, with the request and response
models of `auth_dtos.py` and the `PasswordHasher`. Passlib and the email
validator are parameters.

Registration is written as its three parts (build the `User`, look the email
up, add and commit) because concurrent calls interleave between them.
-/

set_option autoImplicit false

namespace DemoBase.Backend

/-- Passlib's context. `encrypt` receives the salt it draws. -/
structure CryptContext where
  encrypt : String → String → Except PyException String
  verify : String → String → Except PyException Bool

/-- A password verifies against every hash made from it. -/
def CryptContext.AcceptsOwn (context : CryptContext) : Prop :=
  ∀ password salt hashed, context.encrypt password salt = .ok hashed →
    context.verify password hashed = .ok true

/-- A password verifies only against a hash made from it. -/
def CryptContext.AcceptsOnlyOwn (context : CryptContext) : Prop :=
  ∀ password hashed, context.verify password hashed = .ok true →
    ∃ salt, context.encrypt password salt = .ok hashed

structure PasswordHasher where
  pwdContext : CryptContext

def PasswordHasher.encryptPassword (self : PasswordHasher) (password salt : String) :
    Except PyException String :=
  self.pwdContext.encrypt password salt

def PasswordHasher.verifyPassword (self : PasswordHasher) (plainPassword hashedPassword : String) :
    Except PyException Bool :=
  self.pwdContext.verify plainPassword hashedPassword

structure LoginRequestDto where
  username : String
  password : String
deriving DecidableEq, Repr

structure LoginResponseDto where
  accessToken : String
  tokenType : String
deriving DecidableEq, Repr

/-- The validated registration request; the two `min_length` constraints are
part of the value. -/
structure RegisterRequestDto where
  email : String
  password : String
  emailLength : 8 ≤ email.length
  passwordLength : 8 ≤ password.length

/-- What pydantic's `EmailStr` turns a typed address into: the normal form of
the email-validator package, or a validation error. -/
abbrev EmailStr := String → Option String

/-- Validation of the request body: `EmailStr` first, then the lengths. -/
def RegisterRequestDto.parse (emailStr : EmailStr) (email password : String) :
    Option RegisterRequestDto :=
  match emailStr email with
  | none => none
  | some normalised =>
      if lengths : 8 ≤ normalised.length ∧ 8 ≤ password.length then
        some ⟨normalised, password, lengths.1, lengths.2⟩
      else none

structure RegisterResponseDto where
  id : String
  email : String
deriving DecidableEq, Repr

structure AuthService where
  passwordHasher : PasswordHasher
  tokenService : TokenService

namespace AuthService

variable (self : AuthService)

/-- Hash the password and build the `User`. -/
def buildUser (user : RegisterRequestDto) (salt : String) : Except PyException PendingUser :=
  match self.passwordHasher.encryptPassword user.password salt with
  | .error error => .error error
  | .ok encryptedPassword => .ok ⟨user.email, encryptedPassword, .user⟩

/-- The existence check. -/
def checkAbsent (users : UserTable) (newUser : PendingUser) : Except PyException Unit :=
  match findUserByEmail users newUser.email with
  | .error error => .error error
  | .ok (some _) => .error (.httpException (userExistsException newUser.email))
  | .ok none => .ok ()

/-- `except Exception as e: raise UserCreateInternalErrorException(detail=str(e))`. -/
def wrapCreateError (error : PyException) : PyException :=
  .httpException (userCreateInternalErrorException error.str)

/-- Add the object, flush it and commit. -/
def addAndCommit (users : UserTable) (newUser : PendingUser) (generated : Generated) :
    Except PyException UserTable :=
  (users.insert (newUser.flush generated)).mapError wrapCreateError

/-- One registration against a table that nobody else changes meanwhile, with
the table it leaves. -/
def addNewUser (users : UserTable) (user : RegisterRequestDto) (salt : String)
    (generated : Generated) : UserTable × Except PyException RegisterResponseDto :=
  let registered : Except PyException (UserTable × RegisterResponseDto) := do
    let newUser ← self.buildUser user salt
    checkAbsent users newUser
    let after ← addAndCommit users newUser generated
    pure (after, ⟨generated.userUuid, newUser.email⟩)
  match registered with
  | .ok (after, response) => (after, .ok response)
  | .error error => (users, .error error)

/-- The lookup and the password check of `login`. -/
def authenticate (users : UserTable) (loginRequest : LoginRequestDto) :
    Except PyException User := do
  match ← findUserByEmail users loginRequest.username with
  | none => throw (.httpException invalidCredentialsException)
  | some user =>
      if ← self.passwordHasher.verifyPassword loginRequest.password user.hashedPassword then
        pure user
      else throw (.httpException invalidCredentialsException)

def login (users : UserTable) (now : Instant) (loginRequest : LoginRequestDto) :
    Except PyException LoginResponseDto := do
  let user ← self.authenticate users loginRequest
  let accessToken ← self.tokenService.createAccessToken ⟨some user.email, some user.role⟩ now
  pure ⟨accessToken, "bearer"⟩

end AuthService

/-! ### What each part does -/

theorem RegisterRequestDto.parse_eq_some {emailStr : EmailStr} {email password : String}
    {user : RegisterRequestDto} (parsed : RegisterRequestDto.parse emailStr email password = some user) :
    emailStr email = some user.email ∧ user.password = password := by
  unfold RegisterRequestDto.parse at parsed
  cases normal : emailStr email with
  | none => simp [normal] at parsed
  | some normalised =>
      simp only [normal] at parsed
      split at parsed
      · obtain rfl := Option.some.inj parsed
        exact ⟨rfl, rfl⟩
      · cases parsed

namespace AuthService

variable {self : AuthService} {users : UserTable}

theorem buildUser_ok {user : RegisterRequestDto} {salt : String} {newUser : PendingUser}
    (built : self.buildUser user salt = .ok newUser) :
    newUser.email = user.email ∧ newUser.role = .user ∧
      self.passwordHasher.encryptPassword user.password salt = .ok newUser.hashedPassword := by
  unfold buildUser at built
  cases encrypted : self.passwordHasher.encryptPassword user.password salt with
  | error error => simp [encrypted] at built
  | ok encryptedPassword =>
      simp only [encrypted, Except.ok.injEq] at built
      subst built
      exact ⟨rfl, rfl, rfl⟩

/-- The check fails only with the conflict, and only when the email is taken. -/
theorem checkAbsent_total (users : UserTable) (newUser : PendingUser) :
    checkAbsent users newUser = .ok () ∨
      (checkAbsent users newUser =
          .error (.httpException (userExistsException newUser.email)) ∧
        ∃ row ∈ users.rows, row.email = newUser.email) := by
  unfold checkAbsent
  rcases findUserByEmail_total users newUser.email with ⟨absent, -⟩ | ⟨user, member, same, present⟩
  · exact Or.inl (by rw [absent])
  · exact Or.inr ⟨by rw [present], user, member, same⟩

theorem addAndCommit_ok {newUser : PendingUser} {generated : Generated} {after : UserTable}
    (committed : addAndCommit users newUser generated = .ok after) :
    after.rows = users.rows ++ [newUser.flush generated] ∧
      ∀ row ∈ users.rows, row.email ≠ newUser.email := by
  unfold addAndCommit at committed
  cases inserted : users.insert (newUser.flush generated) with
  | error error => simp [inserted, Except.mapError] at committed
  | ok table =>
      simp only [inserted, Except.mapError, Except.ok.injEq] at committed
      subst committed
      exact UserTable.insert_ok inserted

/-- Everything one registration can do to the table: append the flushed row and
answer with it, or leave the table and raise. -/
theorem addNewUser_cases (self : AuthService) (users : UserTable) (user : RegisterRequestDto)
    (salt : String) (generated : Generated) :
    (∃ newUser after, self.buildUser user salt = .ok newUser ∧
        after.rows = users.rows ++ [newUser.flush generated] ∧
        self.addNewUser users user salt generated =
          (after, .ok ⟨generated.userUuid, newUser.email⟩)) ∨
      ∃ error, self.addNewUser users user salt generated = (users, .error error) := by
  unfold addNewUser
  cases built : self.buildUser user salt with
  | error error => exact Or.inr ⟨error, rfl⟩
  | ok newUser =>
      cases checked : checkAbsent users newUser with
      | error error => exact Or.inr ⟨error, by simp [bind, Except.bind, checked]⟩
      | ok _ =>
          cases committed : addAndCommit users newUser generated with
          | error error => exact Or.inr ⟨error, by simp [bind, Except.bind, checked, committed]⟩
          | ok after =>
              refine Or.inl ⟨newUser, after, rfl, (addAndCommit_ok committed).1, ?_⟩
              simp [bind, Except.bind, checked, committed, pure, Except.pure]

theorem authenticate_ok {loginRequest : LoginRequestDto} {user : User} :
    self.authenticate users loginRequest = .ok user ↔
      findUserByEmail users loginRequest.username = .ok (some user) ∧
        self.passwordHasher.verifyPassword loginRequest.password user.hashedPassword =
          .ok true := by
  unfold authenticate
  rcases findUserByEmail_total users loginRequest.username with ⟨absent, -⟩ | ⟨row, -, -, present⟩
  · simp [absent, bind, Except.bind, throw, throwThe, MonadExceptOf.throw]
  · rw [present]
    cases verified : self.passwordHasher.verifyPassword loginRequest.password row.hashedPassword with
    | error error =>
        simp only [bind, Except.bind, verified, reduceCtorEq, Except.ok.injEq, Option.some.injEq,
          false_iff, not_and]
        rintro rfl
        simp [verified]
    | ok accepted =>
        cases accepted with
        | false =>
            simp only [bind, Except.bind, verified, throw, throwThe, MonadExceptOf.throw,
              Bool.false_eq_true, if_false, reduceCtorEq, Except.ok.injEq, Option.some.injEq,
              false_iff, not_and]
            rintro rfl
            simp [verified]
        | true =>
            simp only [bind, Except.bind, verified, if_true, pure, Except.pure, Except.ok.injEq,
              Option.some.injEq]
            constructor
            · rintro rfl
              exact ⟨rfl, verified⟩
            · rintro ⟨rfl, -⟩
              rfl

/-- A login returns a token exactly when it authenticates a row, and the token
is the one minted for that row's email and role. -/
theorem login_ok {now : Instant} {loginRequest : LoginRequestDto} {response : LoginResponseDto} :
    self.login users now loginRequest = .ok response ↔
      ∃ user, self.authenticate users loginRequest = .ok user ∧
        self.tokenService.createAccessToken ⟨some user.email, some user.role⟩ now =
          .ok response.accessToken ∧ response.tokenType = "bearer" := by
  unfold login
  cases authenticated : self.authenticate users loginRequest with
  | error error => simp [bind, Except.bind]
  | ok user =>
      simp only [bind, Except.bind, TokenService.createAccessToken, pure, Except.pure,
        Except.ok.injEq, exists_eq_left']
      constructor
      · rintro rfl
        exact ⟨rfl, rfl⟩
      · rintro ⟨token, type⟩
        cases response
        simp_all

end AuthService

/-! ### Executable Passlib and email-validator -/

def referenceContext : CryptContext where
  encrypt := fun password _ => .ok ("$argon2id$" ++ password)
  verify := fun password hashed => .ok (hashed == "$argon2id$" ++ password)

theorem referenceContext_acceptsOwn : referenceContext.AcceptsOwn := by
  intro password salt hashed encrypted
  have hashedEq : "$argon2id$" ++ password = hashed := Except.ok.inj encrypted
  simp [referenceContext, hashedEq]

theorem referenceContext_acceptsOnlyOwn : referenceContext.AcceptsOnlyOwn := by
  intro password hashed verified
  have hashedEq : hashed = "$argon2id$" ++ password := by
    simpa [referenceContext] using verified
  exact ⟨"", by rw [hashedEq]; rfl⟩

/-- The part of the normal form that concerns ASCII addresses: the domain is
lower-cased, the local part is kept. -/
def referenceEmailStr : EmailStr := fun email =>
  match email.toList.splitOn '@' with
  | [localPart, domain] =>
      if localPart = [] ∨ domain = [] then none
      else some (String.ofList (localPart ++ '@' :: domain.map Char.toLower))
  | _ => none

def referenceAuthService : AuthService := ⟨⟨referenceContext⟩, referenceTokenService⟩

def referenceUser : RegisterRequestDto :=
  ⟨"user@example.com", "password", by decide, by decide⟩

end DemoBase.Backend
