import DemoBase.Backend.AuthRoutes
import DemoBase.Backend.LoginRoundTrip
import DemoBase.EndToEnd.UsersMe
import DemoBase.Frontend.CredentialForms

/-!
Owns the two public forms together with the backend they talk to, in production or from
another origin. Whatever fails on the way, what a form shows for an answer is true of the
user table: a success has its row, a conflict has the row it conflicts with, a refusal was
refused.
-/

set_option autoImplicit false

namespace DemoBase.EndToEnd

open DemoBase.Foundations DemoBase.Backend

open DemoBase.Frontend (FormError LoginRequest RegisterRequest LoginPage LoginEdit
  RegistrationViewComponent RegistrationEdit credentialsMissing loginFailure
  registrationFailure registrationRefusals)

/-! ### What the browser hands over -/

/-- The browser lets the frontend read the response: it is of its own origin, or its
header allows the origin the frontend was loaded from. -/
def Readable (origin : Option String) (response : Response) : Prop :=
  origin = none ∨ response.allowOrigin = some "*" ∨ response.allowOrigin = origin

instance decidableReadable (origin : Option String) (response : Response) :
    Decidable (Readable origin response) :=
  inferInstanceAs (Decidable (_ ∨ _ ∨ _))

/-- The error of a request that got no readable answer. -/
def unreachable : FormError := ⟨0, none⟩

/-- `err.error?.detail` of an answer with this body. -/
def detailOf (body : Body) : Option Json :=
  match body with
  | .detail text => some (.string text)
  | .json (.object members) => members.lookup "detail"
  | _ => none

/-- What `HttpClient` makes of a response: the parsed body of a success, or an error. -/
def receive (origin : Option String) (response : Response) : Except FormError Json :=
  if Readable origin response then
    if 200 ≤ response.statusCode ∧ response.statusCode < 300 then
      match response.body with
      | .json value => .ok value
      | _ => .error ⟨response.statusCode, none⟩
    else .error ⟨response.statusCode, detailOf response.body⟩
  else .error unreachable

/-- What handling one request finds outside the program. A failure is none that FastAPI
turns into a response by itself. -/
structure Circumstances where
  fault : Fault
  salt : String
  generated : Generated
  unhandled : ∀ site error, fault = some (site, error) → error.Unhandled

/-- What the routes of the two forms rely on: FastAPI answers an invalid body with 422,
reads the two fields of a filled-in login form, and passlib raises no HTTP exception. -/
structure ServesForms (libraries : Libraries) : Prop where
  validationError : ∀ request, (libraries.validationError request).statusCode = 422
  loginForm : ∀ (request : Request) (username password : String),
    request.fields = [("username", username), ("password", password)] → username ≠ "" →
      password ≠ "" → libraries.loginForm request = some ⟨username, password⟩
  plain : libraries.pwdContext.RaisesPlainly

namespace Production

variable (self : Production) (origin : Option String)

/-- The deployment as it handles a request under these circumstances. -/
def under (state : ServerState) (circumstances : Circumstances) : Deployment :=
  ⟨self.config, self.libraries,
    ⟨state.users, state.now, circumstances.salt, circumstances.generated⟩⟩

/-! ### Registration -/

/-- `AuthService.register` as it reaches the backend. -/
def registration (request : RegisterRequest) : Request where
  method := "POST"
  path := "/api/v1/auth/register"
  origin := origin
  fields := [("email", request.email), ("password", request.password)]

/-- The preflight a browser sends before a JSON request to another origin. -/
def preflight (request : Request) : Request where
  method := "OPTIONS"
  path := request.path
  origin := request.origin
  accessControlRequestMethod := some request.method

/-- The browser sends the request itself. -/
def Sends (state : ServerState) (circumstances : Circumstances) (request : Request) : Prop :=
  origin = none ∨
    let answer := (self.under state circumstances).respond none (preflight request)
    answer.statusCode = 200 ∧ Readable origin answer

instance decidableSends (state : ServerState) (circumstances : Circumstances)
    (request : Request) : Decidable (self.Sends origin state circumstances request) :=
  inferInstanceAs (Decidable (_ ∨ _))

/-- The table once the route of a registration is done, however its response fares. -/
def registered (state : ServerState) (circumstances : Circumstances) (request : Request) :
    UserTable :=
  match ((self.under state circumstances).authMiddleware circumstances.fault).dispatch request
      state.now, self.libraries.registerBody request with
  | .ok (.forward _), some user =>
      if strikesRegistration circumstances.fault then state.users
      else (self.server.authService.addNewUser state.users user circumstances.salt
        circumstances.generated).1
  | _, _ => state.users

/-- The request of the form is handled: what becomes of the backend, and the answer. -/
def register (state : ServerState) (circumstances : Circumstances) (request : RegisterRequest) :
    ServerState × Except FormError Unit :=
  let sent := registration origin request
  if self.Sends origin state circumstances sent then
    ({ state with users := self.registered state circumstances sent },
      (receive origin ((self.under state circumstances).respond circumstances.fault sent)).map
        fun _ => ())
  else (state, .error unreachable)

def registrationService :
    SingleFlight.Service ServerState Circumstances Event RegisterRequest
      (Except FormError Unit) where
  handle := self.register origin
  elsewhere := self.server.machine.next

def registrationMachine :=
  SingleFlight.machine RegistrationViewComponent.form (self.registrationService origin)
    (.error unreachable)

/-- What the form's answer to a registration says about the table. -/
def TellsRegistration (state : ServerState) (request : RegisterRequest)
    (answer : Except FormError Unit) : Prop :=
  match answer with
  | .ok _ =>
      ∃ row ∈ state.users.rows, self.libraries.emailStr request.email = some row.email ∧
        row.role = .user ∧ ∃ salt,
          self.server.authService.passwordHasher.encryptPassword request.password salt =
            .ok row.hashedPassword
  | .error error =>
      (error.status = 409 →
          ∃ row ∈ state.users.rows, self.libraries.emailStr request.email = some row.email) ∧
        (error.status = 422 →
          RegisterRequestDto.parse self.libraries.emailStr request.email request.password = none)

/-- No rule covers the path. -/
def IsPublic (path : String) : Prop :=
  findMatchingPathConfig self.config.authMiddleware.pathAccess path = none

variable {self origin}

theorem receive_ok {response : Response} {value : Json}
    (received : receive origin response = .ok value) :
    200 ≤ response.statusCode ∧ response.statusCode < 300 ∧ response.body = .json value := by
  unfold receive at received
  split at received
  · split at received
    · rename_i success
      cases body : response.body with
      | json parsed =>
          rw [body] at received
          obtain rfl := Except.ok.inj received
          exact ⟨success.1, success.2, rfl⟩
      | _ =>
          rw [body] at received
          cases received
    · cases received
  · cases received

theorem receive_error {response : Response} {error : FormError}
    (received : receive origin response = .error error) :
    error.status = 0 ∨ error.status = response.statusCode := by
  unfold receive at received
  split at received
  · right
    split at received
    · cases body : response.body with
      | json parsed =>
          rw [body] at received
          cases received
      | _ =>
          rw [body] at received
          obtain rfl := Except.error.inj received
          rfl
    · obtain rfl := Except.error.inj received
      rfl
  · left
    obtain rfl := Except.error.inj received
    rfl

section Registration

variable {state : ServerState} {circumstances : Circumstances} {request : RegisterRequest}

theorem registration_body :
    self.libraries.registerBody (registration origin request) =
      RegisterRequestDto.parse self.libraries.emailStr request.email request.password := rfl

theorem registered_of_parsed (isPublic : self.IsPublic "/api/v1/auth/register")
    {user : RegisterRequestDto}
    (parsed : self.libraries.registerBody (registration origin request) = some user)
    (spared : strikesRegistration circumstances.fault = false) :
    self.registered state circumstances (registration origin request) =
      (self.server.authService.addNewUser state.users user circumstances.salt
        circumstances.generated).1 := by
  have forwarded := @Deployment.forward_of_public (self.under state circumstances)
    (registration origin request) circumstances.fault rfl isPublic
  have now : (self.under state circumstances).world.now = state.now := rfl
  rw [now] at forwarded
  unfold registered
  rw [forwarded, parsed]
  simp [spared]

/-- A registration removes and changes no row. -/
theorem registered_persists (sent : Request) :
    ∀ row ∈ state.users.rows, row ∈ (self.registered state circumstances sent).rows := by
  intro row listed
  unfold registered
  split
  · split
    · exact listed
    · exact Server.rowsPersist_next state (.addNewUser _ _ _) row listed
  · exact listed

theorem TellsRegistration.of_persists {later : ServerState} {answer : Except FormError Unit}
    (persists : ∀ row ∈ state.users.rows, row ∈ later.users.rows)
    (tells : self.TellsRegistration state request answer) :
    self.TellsRegistration later request answer := by
  cases answer with
  | ok value =>
      rcases tells with ⟨row, listed, told⟩
      exact ⟨row, persists row listed, told⟩
  | error error =>
      refine ⟨fun conflict => ?_, tells.2⟩
      rcases tells.1 conflict with ⟨row, listed, same⟩
      exact ⟨row, persists row listed, same⟩

/-- A registration that returned has left the row of the request. -/
theorem created_row {user : RegisterRequestDto} {created : RegisterResponseDto}
    (parsed : self.libraries.registerBody (registration origin request) = some user)
    (returned : (self.server.authService.addNewUser state.users user circumstances.salt
      circumstances.generated).2 = .ok created) :
    ∃ row ∈ (self.server.authService.addNewUser state.users user circumstances.salt
        circumstances.generated).1.rows,
      self.libraries.emailStr request.email = some row.email ∧ row.role = .user ∧ ∃ salt,
        self.server.authService.passwordHasher.encryptPassword request.password salt =
          .ok row.hashedPassword := by
  rcases RegisterRequestDto.parse_eq_some (registration_body ▸ parsed) with ⟨normal, password⟩
  rcases self.server.authService.addNewUser_cases state.users user circumstances.salt
    circumstances.generated with ⟨newUser, after, built, appended, outcome⟩ | ⟨error, outcome⟩
  · rcases AuthService.buildUser_ok built with ⟨email, role, hashed⟩
    rw [outcome]
    refine ⟨newUser.flush circumstances.generated, ?_, ?_, role, circumstances.salt, ?_⟩
    · rw [appended]
      exact List.mem_append_right _ List.mem_cons_self
    · exact normal.trans (congrArg some email.symm)
    · rw [← password]
      exact hashed
  · rw [outcome] at returned
    cases returned

/-- What the answer to a registration says is so once it is handled. -/
theorem register_tells (isPublic : self.IsPublic "/api/v1/auth/register")
    (serves : ServesForms self.libraries) :
    self.TellsRegistration (self.register origin state circumstances request).1 request
      (self.register origin state circumstances request).2 := by
  unfold register
  by_cases sends : self.Sends origin state circumstances (registration origin request)
  · rw [if_pos sends]
    have persists := @registered_persists self state circumstances (registration origin request)
    obtain ⟨status, -⟩ := @Deployment.respond_of_public (self.under state circumstances)
      circumstances.fault (registration origin request) rfl isPublic (by simp [registration])
    have route : (self.under state circumstances).router circumstances.fault
        (registration origin request) none =
          (self.libraries.registerUser self.config.jwt (self.under state circumstances).world
            (registration origin request)).runWith circumstances.fault := rfl
    rw [route] at status
    rcases @registerUser_outcome self.libraries self.config.jwt
      (self.under state circumstances).world (registration origin request) circumstances.fault
      serves.plain circumstances.unhandled with
      ⟨invalid, outcome⟩ |
        ⟨user, parsed, ⟨created, value, returned, spared, outcome⟩ | ⟨error, outcome, failed⟩⟩
    · -- the body was invalid
      rw [outcome] at status
      have invalidStatus := status.trans (serves.validationError _)
      cases received : receive origin ((self.under state circumstances).respond
        circumstances.fault (registration origin request)) with
      | ok value =>
          have success := (receive_ok received).2.1
          omega
      | error error =>
          have answered := receive_error received
          exact ⟨fun conflict => by omega, fun _ => registration_body ▸ invalid⟩
    · -- the account was created
      rw [outcome] at status
      rw [registered_of_parsed isPublic parsed spared]
      cases received : receive origin ((self.under state circumstances).respond
        circumstances.fault (registration origin request)) with
      | ok answer => exact created_row parsed returned
      | error error =>
          have answered := receive_error received
          rw [status] at answered
          exact ⟨fun conflict => by simp [statusOf, conflict] at answered,
            fun unprocessable => by simp [statusOf, unprocessable] at answered⟩
    · -- an exception left the route
      rw [outcome] at status
      have failureCode : statusOf (.error error) = failureStatus error := rfl
      cases received : receive origin ((self.under state circumstances).respond
        circumstances.fault (registration origin request)) with
      | ok value =>
          have success := (receive_ok received).2.1
          omega
      | error shown =>
          have answered := receive_error received
          refine ⟨fun conflict => ?_, fun unprocessable => by omega⟩
          rcases failed with internal | ⟨-, row, listed, same⟩
          · omega
          · refine ⟨row, persists row listed, ?_⟩
            rw [same]
            exact (RegisterRequestDto.parse_eq_some (registration_body ▸ parsed)).1
  · rw [if_neg sends]
    exact ⟨fun conflict => absurd conflict (by decide), fun invalid => absurd invalid (by decide)⟩

theorem registration_told (isPublic : self.IsPublic "/api/v1/auth/register")
    (serves : ServesForms self.libraries) :
    SingleFlight.Told (self.registrationService origin) (.error unreachable)
      self.TellsRegistration where
  handled := fun _ _ _ => register_tells isPublic serves
  kept_handle := by
    intro server world other request answer tells
    apply TellsRegistration.of_persists _ tells
    intro row listed
    show row ∈ (self.register origin server world other).1.users.rows
    unfold register
    dsimp only
    split
    · exact registered_persists _ row listed
    · exact listed
  kept_elsewhere := fun server event _ _ tells =>
    tells.of_persists (Server.rowsPersist_next server event)
  lost := fun _ _ =>
    ⟨fun conflict => absurd conflict (by decide), fun invalid => absurd invalid (by decide)⟩

/-- In every run of the registration form one request is in flight while it is loading and
none otherwise. Its success message stands for a row that the entered password logs in as;
its error messages are its own refusals or those of the last answer, of which a conflict
stands for a row of that address and a rejected format for a body the backend does not
accept. -/
theorem registration_form_truthful (isPublic : self.IsPublic "/api/v1/auth/register")
    (serves : ServesForms self.libraries) (documented : self.libraries.jwt.Documented)
    (acceptsOwn : self.libraries.pwdContext.AcceptsOwn) {server : ServerState}
    {past : Machine.History (SingleFlight.Exchange RegistrationViewComponent ServerState
        RegisterRequest (Except FormError Unit))
      (SingleFlight.Action RegistrationEdit Circumstances Event) Unit}
    {system : SingleFlight.Exchange RegistrationViewComponent ServerState RegisterRequest
      (Except FormError Unit)}
    (run : Machine.Run (self.registrationMachine origin) Machine.unrestricted
      (SingleFlight.opened .initial server) past system) :
    system.flights.length = system.view.isLoading.toNat ∧
      (system.view.successMessage ≠ none → ∃ request row,
        system.settled = some (request, .ok ()) ∧ row ∈ system.server.users.rows ∧
          self.libraries.emailStr request.email = some row.email ∧ row.role = .user ∧
          self.server.LogsInAs system.server row.email request.password row) ∧
      ∀ message, system.view.errorMessage = some message →
        message ∈ registrationRefusals ∨
          ∃ request error, system.settled = some (request, .error error) ∧
            message = registrationFailure error ∧
            (error.status = 409 → ∃ row ∈ system.server.users.rows,
              self.libraries.emailStr request.email = some row.email) ∧
            (error.status = 422 → RegisterRequestDto.parse self.libraries.emailStr request.email
              request.password = none) := by
  obtain ⟨one, truthful⟩ := SingleFlight.exchange_of_run RegistrationViewComponent.form_disciplined
    (registration_told isPublic serves) RegistrationViewComponent.form_reflects rfl
    RegistrationViewComponent.shows_initial run
  refine ⟨one, fun succeeded => ?_, fun message shown => ?_⟩
  · rcases truthful.shown.success succeeded with ⟨request, settled⟩
    rcases truthful.settled request _ settled with ⟨row, listed, normal, role, salt, hashed⟩
    exact ⟨request, row, settled, listed, normal, role,
      Server.logsInAs_of_mem documented acceptsOwn listed hashed⟩
  · rcases truthful.shown.message message shown with refused | ⟨request, error, settled, same⟩
    · exact Or.inl refused
    · exact Or.inr ⟨request, error, settled, same, truthful.settled request _ settled⟩

private def shop : Production := ⟨referenceDeployment.config, referenceLibraries⟩

theorem referenceLibraries_servesForms : ServesForms referenceLibraries where
  validationError := fun _ => rfl
  loginForm := by
    intro request username password fields _ _
    simp only [referenceLibraries, fields]
    rfl
  plain := {
    encrypt := fun _ _ _ raised => by cases raised
    verify := fun _ _ _ raised => by cases raised }

/-- Nothing fails. -/
def quiet : Circumstances where
  fault := none
  salt := "salt"
  generated := ⟨1, "0b6c3a34-6a4f-4c0e-8f5e-6f2f1a9f7b21"⟩
  unhandled := fun _ _ struck => by cases struck

/-- Somebody fills in the form and submits it, and the answer arrives. -/
private def signsUp : List (SingleFlight.Action RegistrationEdit Circumstances Event) :=
  [.edit (.email "user@example.com"), .edit (.password "password"),
    .edit (.confirmPassword "password"), .submit, .handle 0 quiet, .arrive 0]

theorem registration_form_truthful_first :
    ∃ row, row.email = "user@example.com" ∧
      shop.server.LogsInAs
        ((shop.registrationMachine none).execute []
          (SingleFlight.opened .initial ⟨⟨[], List.nodup_nil⟩, 0⟩) signsUp).2.server
        row.email "password" row := by
  have run := (shop.registrationMachine none).run_unrestricted
    (SingleFlight.opened .initial ⟨⟨[], List.nodup_nil⟩, 0⟩) signsUp
  have isPublic : shop.IsPublic "/api/v1/auth/register" := by
    show findMatchingPathConfig defaultPathAccess "/api/v1/auth/register" = none
    decide
  obtain ⟨-, succeeds, -⟩ := registration_form_truthful isPublic referenceLibraries_servesForms
    referenceJWT_documented referenceContext_acceptsOwn run
  obtain ⟨request, row, settled, -, normal, -, logsIn⟩ := succeeds (by decide)
  have sent : ((shop.registrationMachine none).execute []
      (SingleFlight.opened .initial ⟨⟨[], List.nodup_nil⟩, 0⟩) signsUp).2.settled =
        some (⟨"user@example.com", "password", by decide, by decide⟩, .ok ()) := by rfl
  obtain ⟨rfl, -⟩ := Prod.mk.inj (Option.some.inj (settled.symm.trans sent))
  have email : some "user@example.com" = some row.email := by
    rw [← normal]
    rfl
  exact ⟨row, (Option.some.inj email).symm, logsIn⟩

end Registration

/-! ### Login -/

section Login

/-- `AuthService.login` as it reaches the backend. -/
def signIn (origin : Option String) (request : LoginRequest) : Request where
  method := "POST"
  path := "/api/v1/auth/login"
  origin := origin
  fields := [("username", request.username), ("password", request.password)]

/-- `response.access_token`. -/
def accessTokenOf (body : Json) : Except FormError String :=
  match body with
  | .object members =>
      match members.lookup "access_token" with
      | some (.string accessToken) => .ok accessToken
      | _ => .error ⟨200, none⟩
  | _ => .error ⟨200, none⟩

/-- The request of the form is handled, which leaves the backend as it was. The body is
form data, for which a browser sends no preflight. -/
def login (self : Production) (origin : Option String) (state : ServerState)
    (circumstances : Circumstances) (request : LoginRequest) :
    ServerState × Except FormError String :=
  (state, (receive origin ((self.under state circumstances).respond circumstances.fault
    (signIn origin request))).bind accessTokenOf)

def loginService (self : Production) (origin : Option String) :
    SingleFlight.Service ServerState Circumstances Event LoginRequest
      (Except FormError String) where
  handle := self.login origin
  elsewhere := self.server.machine.next

def loginMachine (self : Production) (origin : Option String) :=
  SingleFlight.machine LoginPage.form (self.loginService origin) (.error unreachable)

/-- What the form's answer to a login says: its token was minted for the row of the
address and password, or these were refused by a table that has only grown since. -/
def TellsLogin (self : Production) (state : ServerState) (request : LoginRequest)
    (answer : Except FormError String) : Prop :=
  match answer with
  | .ok accessToken =>
      ∃ row ∈ state.users.rows, row.email = request.username ∧
        self.server.authService.passwordHasher.verifyPassword request.password
          row.hashedPassword = .ok true ∧
        ∃ issuedAt ≤ state.now, self.server.authService.tokenService.createAccessToken
          ⟨some row.email, some row.role⟩ issuedAt = .ok accessToken
  | .error error =>
      error.status = 401 → ∃ earlier : UserTable,
        (∀ row ∈ earlier.rows, row ∈ state.users.rows) ∧
          self.server.authService.authenticate earlier ⟨request.username, request.password⟩ =
            .error (.httpException invalidCredentialsException)

variable {state : ServerState} {circumstances : Circumstances} {request : LoginRequest}

/-- What the answer to a login says is so when it is handled. -/
theorem login_tells (isPublic : self.IsPublic "/api/v1/auth/login")
    (serves : ServesForms self.libraries) :
    self.TellsLogin state request (self.login origin state circumstances request).2 := by
  unfold login
  have parsed := serves.loginForm (signIn origin request) request.username request.password rfl
    request.filledIn.1 request.filledIn.2
  obtain ⟨status, body⟩ := @Deployment.respond_of_public (self.under state circumstances)
    circumstances.fault (signIn origin request) rfl isPublic (by simp [signIn])
  have route : (self.under state circumstances).router circumstances.fault
      (signIn origin request) none =
        (self.libraries.loginUser self.config.jwt (self.under state circumstances).world
          (signIn origin request)).runWith circumstances.fault := rfl
  rw [route] at status body
  rcases @loginUser_outcome self.libraries self.config.jwt (self.under state circumstances).world
    (signIn origin request) circumstances.fault serves.plain circumstances.unhandled _ parsed with
    ⟨response, returned, outcome⟩ | ⟨error, outcome, failed⟩
  · rw [outcome] at status body
    cases received : receive origin ((self.under state circumstances).respond
      circumstances.fault (signIn origin request)) with
    | ok value =>
        have same := (receive_ok received).2.2
        rw [body _ rfl] at same
        obtain rfl := Body.json.inj same
        rcases AuthService.login_ok.mp returned with ⟨row, authenticated, minted, -⟩
        rcases AuthService.authenticate_ok.mp authenticated with ⟨found, accepted⟩
        rcases mem_of_findUserByEmail found with ⟨listed, email⟩
        exact ⟨row, listed, email, accepted, state.now, le_refl _, minted⟩
    | error error =>
        have answered := receive_error received
        rw [status] at answered
        exact fun refused => by simp [statusOf, refused] at answered
  · rw [outcome] at status
    have failureCode : statusOf (.error error) = failureStatus error := rfl
    cases received : receive origin ((self.under state circumstances).respond
      circumstances.fault (signIn origin request)) with
    | ok value =>
        have success := (receive_ok received).2.1
        omega
    | error shown =>
        have answered := receive_error received
        intro refused
        rcases failed with internal | ⟨-, rejected⟩
        · have shownRefused : shown.status = 401 := refused
          omega
        · exact ⟨state.users, fun row listed => listed, rejected⟩

/-- The clock of the backend does not go back. -/
theorem now_next (server : Server) (state : ServerState) (event : Event) :
    state.now ≤ (server.machine.next state event).now := by
  cases event with
  | tick elapsed => exact Int.le_add_of_nonneg_right (Int.natCast_nonneg elapsed)
  | _ => exact le_refl _

theorem login_told (isPublic : self.IsPublic "/api/v1/auth/login")
    (serves : ServesForms self.libraries) :
    SingleFlight.Told (self.loginService origin) (.error unreachable) self.TellsLogin where
  handled := fun _ _ _ => login_tells isPublic serves
  kept_handle := fun _ _ _ _ _ tells => tells
  kept_elsewhere := by
    intro server event request answer tells
    cases answer with
    | ok accessToken =>
        rcases tells with ⟨row, listed, email, accepted, issuedAt, earlier, minted⟩
        exact ⟨row, Server.rowsPersist_next server event row listed, email, accepted, issuedAt,
          earlier.trans (now_next _ server event), minted⟩
    | error error =>
        intro refused
        rcases tells refused with ⟨earlier, grown, rejected⟩
        exact ⟨earlier, fun row listed =>
          Server.rowsPersist_next server event row (grown row listed), rejected⟩
  lost := fun _ _ refused => absurd refused (by decide)

/-- In every run of the login form one request is in flight while it is loading and none
otherwise. Once a request was answered, a token that is stored is one minted for the row
whose address and password were entered, and verifies to that row until it expires. An
error message is the form's own or that of the last answer; then nothing is stored any
more, and `Invalid email or password` stands for credentials the backend refused. -/
theorem login_form_truthful (isPublic : self.IsPublic "/api/v1/auth/login")
    (serves : ServesForms self.libraries) (documented : self.libraries.jwt.Documented)
    {server : ServerState} {authService : Frontend.AuthService}
    {past : Machine.History (SingleFlight.Exchange LoginPage ServerState LoginRequest
        (Except FormError String))
      (SingleFlight.Action LoginEdit Circumstances Event) Unit}
    {system : SingleFlight.Exchange LoginPage ServerState LoginRequest
      (Except FormError String)}
    (run : Machine.Run (self.loginMachine origin) Machine.unrestricted
      (SingleFlight.opened ⟨.initial, authService⟩ server) past system) :
    system.flights.length = system.view.component.isLoading.toNat ∧
      (∀ request answer token, system.settled = some (request, answer) →
        system.view.authService.tokenStorage = some token →
        ∃ row ∈ system.server.users.rows, row.email = request.username ∧
          self.server.authService.passwordHasher.verifyPassword request.password
            row.hashedPassword = .ok true ∧
          ∃ issuedAt ≤ system.server.now, ∀ now,
            self.server.authService.tokenService.verifyToken token now =
              if now < self.server.authService.tokenService.rejectedFrom issuedAt then
                .ok (some ⟨some row.email, some row.role⟩)
              else .ok none) ∧
      ∀ message, system.view.component.errorMessage = some message →
        message = credentialsMissing ∨
          ∃ request error, system.settled = some (request, .error error) ∧
            message = loginFailure error ∧ system.view.authService.tokenStorage = none ∧
            (error.status = 401 → ∃ earlier : UserTable,
              (∀ row ∈ earlier.rows, row ∈ system.server.users.rows) ∧
                self.server.authService.authenticate earlier
                  ⟨request.username, request.password⟩ =
                    .error (.httpException invalidCredentialsException)) := by
  obtain ⟨one, truthful⟩ := SingleFlight.exchange_of_run LoginPage.form_disciplined
    (login_told isPublic serves) LoginPage.form_reflects rfl (LoginPage.shows_initial authService)
    run
  refine ⟨one, fun request answer token settled stored => ?_, fun message shown => ?_⟩
  · obtain rfl := truthful.shown.token request answer settled token stored
    rcases truthful.settled request _ settled with
      ⟨row, listed, email, accepted, issuedAt, earlier, minted⟩
    exact ⟨row, listed, email, accepted, issuedAt, earlier,
      TokenService.verifyToken_createAccessToken documented minted⟩
  · rcases truthful.shown.message message shown with own | ⟨request, error, settled, same⟩
    · exact Or.inl own
    · right
      refine ⟨request, error, settled, same, ?_, truthful.settled request _ settled⟩
      by_contra present
      rcases Option.ne_none_iff_exists'.mp present with ⟨token, stored⟩
      cases truthful.shown.token request _ settled token stored

/-- The administrator mistypes the password. -/
private def mistypes : List (SingleFlight.Action LoginEdit Circumstances Event) :=
  [.edit (.email "root@example.com"), .edit (.password "correct hose"), .submit,
    .handle 0 quiet, .arrive 0]

private def atLogin : SingleFlight.Exchange LoginPage ServerState LoginRequest
    (Except FormError String) :=
  SingleFlight.opened ⟨.initial, ⟨none, .initial⟩⟩ Server.rootState

theorem login_form_truthful_mistyped :
    ((shop.loginMachine none).execute [] atLogin mistypes).2.view.component.errorMessage =
        some (.string "Invalid email or password") ∧
      ∃ earlier : UserTable, (∀ row ∈ earlier.rows, row = Server.rootRow) ∧
        shop.server.authService.authenticate earlier ⟨"root@example.com", "correct hose"⟩ =
          .error (.httpException invalidCredentialsException) := by
  have run := (shop.loginMachine none).run_unrestricted atLogin mistypes
  have isPublic : shop.IsPublic "/api/v1/auth/login" := by
    show findMatchingPathConfig defaultPathAccess "/api/v1/auth/login" = none
    decide
  have message : ((shop.loginMachine none).execute []
      atLogin mistypes).2.view.component.errorMessage =
        some (.string "Invalid email or password") := by rfl
  have answered : ((shop.loginMachine none).execute [] atLogin mistypes).2.settled =
      some (⟨"root@example.com", "correct hose", by decide⟩,
        .error ⟨401, some (.string "Invalid email or password.")⟩) := by rfl
  refine ⟨message, ?_⟩
  obtain ⟨-, -, messages⟩ := login_form_truthful isPublic referenceLibraries_servesForms
    referenceJWT_documented run
  rcases messages _ message with own | ⟨request, error, settled, -, -, refused⟩
  · simp [credentialsMissing] at own
  · obtain ⟨rfl, sameError⟩ := Prod.mk.inj (Option.some.inj (settled.symm.trans answered))
    obtain rfl := Except.error.inj sameError
    rcases refused rfl with ⟨earlier, grown, rejected⟩
    exact ⟨earlier, fun row listed => List.mem_singleton.mp (grown row listed), rejected⟩

end Login

end Production

end DemoBase.EndToEnd
