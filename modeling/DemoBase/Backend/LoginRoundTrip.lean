import DemoBase.Backend.Session

/-!
Owns the round trip from `POST /auth/register` to `POST /auth/login`.
Registration stores the normal form that `EmailStr` gives the typed address;
login looks the typed address up as it is. The two meet exactly on addresses
that are their own normal form.
-/

set_option autoImplicit false

namespace DemoBase.Backend

open DemoBase.Foundations

namespace Server

variable {self : Server}

/-- Logging in with these strings returns a token that verifies, as long as it
is accepted at all, to the email and role of the row. -/
def LogsInAs (self : Server) (state : ServerState) (email password : String) (row : User) : Prop :=
  ∃ response, self.authService.login state.users state.now ⟨email, password⟩ = .ok response ∧
    ∀ now, now < self.authService.tokenService.rejectedFrom state.now →
      self.authService.tokenService.verifyToken response.accessToken now =
        .ok (some ⟨some row.email, some row.role⟩)

/-- The row a registration created: the one it appended to the table. -/
def Creates (self : Server) (answered : Answered) (row : User) : Prop :=
  (self.machine.next answered.before answered.input).users.rows =
    answered.before.users.rows ++ [row]

/-- What a registration that returned has stored. -/
theorem creates_of_registered {environment : Machine.Environment ServerState Event Outcome}
    {start state : ServerState} {past : Past}
    (run : Machine.Run self.machine environment start past state) {answered : Answered}
    (member : answered ∈ past) {user : RegisterRequestDto} {salt : String}
    {generated : Generated} (input : answered.input = .addNewUser user salt generated)
    {response : RegisterResponseDto} (output : answered.output = .registered (.ok response)) :
    ∃ row, self.Creates answered row ∧ row.email = user.email ∧ row.role = .user ∧
      self.authService.passwordHasher.encryptPassword user.password salt =
        .ok row.hashedPassword ∧
      row ∈ state.users.rows := by
  rcases run.of_mem member with ⟨-, -, -, produced⟩
  rw [produced, input] at output
  have returned : (self.authService.addNewUser answered.before.users user salt generated).2 =
      .ok response := Outcome.registered.inj output
  rcases self.authService.addNewUser_cases answered.before.users user salt generated with
    ⟨newUser, after, built, appended, outcome⟩ | ⟨error, outcome⟩
  · rcases AuthService.buildUser_ok built with ⟨email, role, hashed⟩
    have creates : self.Creates answered (newUser.flush generated) := by
      unfold Creates
      rw [input]
      show (self.authService.addNewUser answered.before.users user salt generated).1.rows = _
      rw [outcome]
      exact appended
    have persists : RowsPersist (self.machine.next answered.before answered.input) state :=
      rowsPersist_of_mem run member
    refine ⟨newUser.flush generated, creates, email, role, hashed, persists _ ?_⟩
    rw [creates]
    exact List.mem_append_right _ List.mem_cons_self
  · rw [outcome] at returned
    cases returned

/-- A login that returns has found the row whose email was typed. -/
theorem email_of_logsInAs (documented : self.authService.tokenService.jwt.Documented)
    {state : ServerState} {email password : String} {row : User}
    (logsIn : self.LogsInAs state email password row) : row.email = email := by
  obtain ⟨response, returned, verifies⟩ := logsIn
  rcases AuthService.login_ok.mp returned with ⟨found, authenticated, minted, -⟩
  have typed := (mem_of_findUserByEmail (AuthService.authenticate_ok.mp authenticated).1).2
  have early : self.authService.tokenService.rejectedFrom state.now - 1 <
      self.authService.tokenService.rejectedFrom state.now := Int.sub_lt_self _ (by decide)
  have verified := verifies _ early
  rw [TokenService.verifyToken_createAccessToken documented minted, if_pos early] at verified
  have sameEmail : found.email = row.email := by
    simp only [Except.ok.injEq, Option.some.injEq, TokenData.mk.injEq] at verified
    exact verified.1
  rw [← sameEmail, typed]

/-- Whoever knows a row's email and a password its hash was made from logs in as
that row. -/
theorem logsInAs_of_mem (documented : self.authService.tokenService.jwt.Documented)
    (acceptsOwn : self.authService.passwordHasher.pwdContext.AcceptsOwn) {state : ServerState}
    {row : User} (member : row ∈ state.users.rows) {password salt : String}
    (hashed : self.authService.passwordHasher.encryptPassword password salt =
      .ok row.hashedPassword) :
    self.LogsInAs state row.email password row := by
  have found := findUserByEmail_of_mem member
  have accepted := acceptsOwn password salt row.hashedPassword hashed
  have authenticated : self.authService.authenticate state.users ⟨row.email, password⟩ =
      .ok row := AuthService.authenticate_ok.mpr ⟨found, accepted⟩
  obtain ⟨token, minted⟩ : ∃ token, self.authService.tokenService.createAccessToken
      ⟨some row.email, some row.role⟩ state.now = .ok token := ⟨_, rfl⟩
  refine ⟨⟨token, "bearer"⟩, AuthService.login_ok.mpr ⟨row, authenticated, minted, rfl⟩, ?_⟩
  intro now early
  rw [TokenService.verifyToken_createAccessToken documented minted, if_pos early]

/-- In every state after a registration that returned, the typed email and
password log in as the created row exactly when the typed email is its own
normal form. -/
theorem login_after_register_iff (emailStr : EmailStr)
    (documented : self.authService.tokenService.jwt.Documented)
    (acceptsOwn : self.authService.passwordHasher.pwdContext.AcceptsOwn)
    {environment : Machine.Environment ServerState Event Outcome} {start state : ServerState}
    {past : Past} (run : Machine.Run self.machine environment start past state)
    {answered : Answered} (member : answered ∈ past) {email password : String}
    {user : RegisterRequestDto}
    (parsed : RegisterRequestDto.parse emailStr email password = some user) {salt : String}
    {generated : Generated} (input : answered.input = .addNewUser user salt generated)
    {response : RegisterResponseDto} (output : answered.output = .registered (.ok response)) :
    ∃ row, self.Creates answered row ∧ row ∈ state.users.rows ∧
      (self.LogsInAs state email password row ↔ emailStr email = some email) := by
  obtain ⟨row, creates, rowEmail, -, hashed, inTable⟩ :=
    creates_of_registered run member input output
  rcases RegisterRequestDto.parse_eq_some parsed with ⟨normalised, samePassword⟩
  rw [samePassword] at hashed
  refine ⟨row, creates, inTable, ?_⟩
  constructor
  · intro logsIn
    have typed := email_of_logsInAs documented logsIn
    rw [normalised, ← rowEmail, typed]
  · intro alreadyNormal
    have sameEmail : row.email = email := by
      rw [rowEmail]
      exact Option.some.inj (normalised.symm.trans alreadyNormal)
    have logsIn := logsInAs_of_mem documented acceptsOwn inTable hashed
    rwa [sameEmail] at logsIn

/-! ### Two spellings of one address -/

def emptyState : ServerState := ⟨⟨[], List.nodup_nil⟩, 0⟩

def registerEvent : Event :=
  .addNewUser referenceUser "salt" ⟨1, "0b6c3a34-6a4f-4c0e-8f5e-6f2f1a9f7b21"⟩

def registerEntry : Answered := referenceServer.machine.entry emptyState registerEvent

theorem registerEntry_run :
    Machine.Run referenceServer.machine Machine.unrestricted emptyState [registerEntry]
      (referenceServer.machine.next emptyState registerEvent) :=
  .step registerEvent .start trivial

theorem registerEntry_output : registerEntry.output =
    .registered (.ok ⟨"0b6c3a34-6a4f-4c0e-8f5e-6f2f1a9f7b21", "user@example.com"⟩) := by
  rfl

theorem login_after_register_lowerCase :
    ∃ row, referenceServer.LogsInAs (referenceServer.machine.next emptyState registerEvent)
      "user@example.com" "password" row := by
  have parsed : RegisterRequestDto.parse referenceEmailStr "user@example.com" "password" =
      some referenceUser := by rfl
  have alreadyNormal : referenceEmailStr "user@example.com" = some "user@example.com" := by rfl
  obtain ⟨row, -, -, logsIn⟩ :=
    login_after_register_iff referenceEmailStr referenceServer_documented
      referenceContext_acceptsOwn registerEntry_run List.mem_cons_self parsed rfl registerEntry_output
  exact ⟨row, logsIn.mpr alreadyNormal⟩

/-- Registered as `user@EXAMPLE.com`, the same strings are then refused. -/
theorem login_after_register_upperCase :
    RegisterRequestDto.parse referenceEmailStr "user@EXAMPLE.com" "password" =
        some referenceUser ∧
      registerEntry.output =
        .registered (.ok ⟨"0b6c3a34-6a4f-4c0e-8f5e-6f2f1a9f7b21", "user@example.com"⟩) ∧
      referenceServer.authService.login
          (referenceServer.machine.next emptyState registerEvent).users 0
          ⟨"user@EXAMPLE.com", "password"⟩ =
        .error (.httpException invalidCredentialsException) ∧
      ¬ ∃ row, referenceServer.LogsInAs (referenceServer.machine.next emptyState registerEvent)
        "user@EXAMPLE.com" "password" row := by
  have refused : referenceServer.authService.login
      (referenceServer.machine.next emptyState registerEvent).users 0
      ⟨"user@EXAMPLE.com", "password"⟩ =
        .error (.httpException invalidCredentialsException) := by rfl
  refine ⟨by rfl, by rfl, refused, ?_⟩
  intro logsIn
  obtain ⟨row, response, returned, -⟩ := logsIn
  have impossible := refused.symm.trans returned
  cases impossible

end Server

end DemoBase.Backend
