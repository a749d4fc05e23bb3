import DemoBase.EndToEnd.Onboarding

/-!
Owns what a visitor is shown when a call under the route of a form fails. The `except`
clauses decide whether the text of the failure gets out, the order of the layers whether a
browser on another origin gets an answer at all, and the form what it makes of either.
-/

set_option autoImplicit false

namespace DemoBase.EndToEnd

open DemoBase.Foundations DemoBase.Backend

open DemoBase.Frontend (FormError LoginRequest RegisterRequest LoginPage LoginEdit
  RegistrationViewComponent RegistrationEdit loginFailure registrationFailure)

/-! ### From the call to the browser -/

/-- The detail of the response that an `except` clause makes of a failure at this call,
unless it passes them all. -/
def publishedText (site : Site) (error : PyException) : Option String :=
  if site = .add ∨ site = .commit then some error.str
  else
    match error with
    | .sqlAlchemyError text => some s!"Database transaction failed: {text}"
    | .httpException raised => some raised.detail
    | .other _ => none

/-- The error a form is handed for it. -/
def failureSeen (origin : Option String) (published : Option String) : FormError :=
  match published with
  | some text => ⟨500, some (.string text)⟩
  | none => if origin = none then ⟨500, none⟩ else unreachable

/-- What the form shows then, `fallback` being its own text for an error without a detail. -/
def failureMessage (fallback : String) (origin : Option String) (published : Option String) :
    Json :=
  match published with
  | some text => .string (if text = "" then fallback else text)
  | none => .string (if origin = none then fallback else "Unable to connect to server")

/-- The CORS layer's header on a response from inside. -/
def withHeader (cors : CORSMiddleware) (request : Request) (response : Response) : Response :=
  match request.origin with
  | none => response
  | some origin => { response with allowOrigin := cors.simpleAllowOrigin origin }

section Failures

variable {site : Site} {error : PyException} {origin : Option String} {request : Request}

/-- A failure leaves its route with the published text or as itself. -/
theorem routeHandler_of_unhandled (unhandled : error.Unhandled) :
    (∃ text, publishedText site error = some text ∧
        routeHandler site error = .httpException ⟨500, text⟩) ∨
      publishedText site error = none ∧ ∃ text, routeHandler site error = .other text := by
  cases error with
  | httpException raised => exact absurd rfl (unhandled raised)
  | sqlAlchemyError text =>
      left
      cases site <;> exact ⟨_, rfl, rfl⟩
  | other text =>
      by_cases inTry : site = .add ∨ site = .commit
      · left
        rcases inTry with rfl | rfl
        · exact ⟨_, rfl, rfl⟩
        · exact ⟨_, rfl, rfl⟩
      · right
        refine ⟨by simp only [publishedText, if_neg inTry], text, ?_⟩
        obtain ⟨notAdd, notCommit⟩ := not_or.mp inTry
        exact (routeHandler_exception site .other).1 ⟨rfl, notAdd, notCommit⟩ text

theorem call_of_not_options_eq (cors : CORSMiddleware) (app : App)
    (notOptions : request.method ≠ "OPTIONS") (userTokenData : Option TokenData) :
    cors.call app request userTokenData =
      (app request userTokenData).map (withHeader cors request) := by
  cases hasOrigin : request.origin with
  | none =>
      have unchanged : withHeader cors request = id := by
        funext response
        simp only [withHeader, hasOrigin, id]
      rw [unchanged]
      unfold CORSMiddleware.call
      simp only [hasOrigin]
      cases app request userTokenData <;> rfl
  | some origin =>
      rw [cors.call_of_not_preflight app hasOrigin (fun preflight => notOptions preflight.options)]
      congr
      funext response
      simp only [withHeader, hasOrigin]

/-- The response to a request one of whose calls failed. -/
theorem respond_of_struck {self : Deployment} (notDecode : site ≠ .decode)
    (reached : self.Reaches request site) (unhandled : error.Unhandled) :
    (∃ text, publishedText site error = some text ∧
        self.respond (some (site, error)) request =
          withHeader self.cors request ⟨500, .detail text, none⟩) ∨
      publishedText site error = none ∧ ∃ shown,
        self.respond (some (site, error)) request = ⟨500, .message shown, none⟩ := by
  obtain ⟨app, userTokenData, raised, notOptions, received⟩ :=
    Deployment.respond_of_reaches notDecode reached error
  have passed := call_of_not_options_eq self.cors (exceptionMiddleware app) notOptions userTokenData
  rcases @routeHandler_of_unhandled site error unhandled with
    ⟨text, published, handled⟩ | ⟨unpublished, text, handled⟩
  · left
    rw [handled] at raised
    rw [exceptionMiddleware_httpException raised] at passed
    refine ⟨text, published, ?_⟩
    rw [received, ErrorMiddlewareConfig.dispatch, passed]
    rfl
  · right
    rw [handled] at raised
    rw [exceptionMiddleware_other raised] at passed
    refine ⟨unpublished, ?_⟩
    rw [received, ErrorMiddlewareConfig.dispatch, passed]
    exact ⟨_, rfl⟩

/-- Both forms show the detail of an internal error or a text of their own. -/
theorem message_failureSeen {message : FormError → Json} {fallback : String}
    (internal : ∀ detail, message ⟨500, detail⟩ = FormError.detailOr ⟨500, detail⟩ fallback)
    (offline : message unreachable = .string "Unable to connect to server")
    (published : Option String) :
    message (failureSeen origin published) = failureMessage fallback origin published := by
  cases published with
  | none =>
      cases origin with
      | none => exact internal none
      | some other => exact offline
  | some text =>
      refine (internal _).trans ?_
      by_cases empty : text = ""
      · subst empty
        rfl
      · simp [failureMessage, FormError.detailOr, Frontend.isTruthy, empty]

end Failures

namespace Production

variable {self : Production} {origin : Option String} {state : ServerState}
  {circumstances : Circumstances} {site : Site} {error : PyException}

/-- The frontend is of the backend's own origin or of one the configuration allows. -/
def Trusts (self : Production) (origin : Option String) : Prop :=
  ∀ other, origin = some other → "*" ∈ self.config.origins ∨ other ∈ self.config.origins

/-- The header lets a trusted origin read the response. -/
theorem readable_withHeader (trusts : self.Trusts origin) {request : Request}
    (sameOrigin : request.origin = origin) (response : Response) :
    Readable origin (withHeader (self.under state circumstances).cors request response) := by
  cases origin with
  | none => exact Or.inl rfl
  | some other =>
      right
      unfold withHeader
      rw [sameOrigin]
      show (CORSMiddleware.simpleAllowOrigin _ other = some "*") ∨ _ = some other
      unfold CORSMiddleware.simpleAllowOrigin
      by_cases all : "*" ∈ self.config.origins
      · have allowAll : (self.under state circumstances).cors.allowAllOrigins = true :=
          decide_eq_true all
        rw [if_pos allowAll]
        split
        · exact Or.inr rfl
        · exact Or.inl rfl
      · right
        have notAll : (self.under state circumstances).cors.allowAllOrigins = false :=
          decide_eq_false all
        have listed : other ∈ (self.under state circumstances).cors.allowOrigins :=
          (trusts other rfl).resolve_left all
        simp [notAll, listed]

theorem ne_decode_of_reaches {deployment : Deployment} {request : Request}
    (noHeader : request.authorization = none) (reached : deployment.Reaches request site) :
    site ≠ .decode := by
  rintro rfl
  obtain ⟨token, extracted⟩ := reached
  simp [extractTokenFromHeader, noHeader] at extracted

/-- What the browser hands a form of a trusted origin when a call failed. -/
theorem receive_of_struck (trusts : self.Trusts origin) {request : Request}
    (sameOrigin : request.origin = origin) (noHeader : request.authorization = none)
    (struck : circumstances.fault = some (site, error))
    (reached : (self.under state circumstances).Reaches request site) :
    receive origin ((self.under state circumstances).respond circumstances.fault request) =
      .error (failureSeen origin (publishedText site error)) := by
  have notDecode := ne_decode_of_reaches noHeader reached
  rw [struck]
  rcases respond_of_struck notDecode reached (circumstances.unhandled site error struck) with
    ⟨text, published, answered⟩ | ⟨unpublished, shown, answered⟩
  · rw [answered, published]
    unfold receive
    rw [if_pos (readable_withHeader trusts sameOrigin _)]
    unfold withHeader
    rw [sameOrigin]
    cases origin <;> rfl
  · rw [answered, unpublished]
    cases origin with
    | none => rfl
    | some other =>
        unfold receive
        rw [if_neg (by simp [Readable])]
        rfl

/-! ### On the login form -/

/-- From every state of the login form with a request on its way: when a call of the
backend fails while handling it, the form ends up idle and signed out, and shows the
published text of the failure or, without one, its own text; on another origin it then
shows that no server was reached. -/
theorem login_struck_shown (trusts : self.Trusts origin)
    {system : SingleFlight.Exchange LoginPage ServerState LoginRequest (Except FormError String)}
    {index : Nat} {request : LoginRequest} (going : system.flights[index]? = some (.going request))
    (struck : circumstances.fault = some (site, error))
    (reached : (self.under system.server circumstances).Reaches (signIn origin request) site)
    {meanwhile : List (SingleFlight.Action LoginEdit Circumstances Event)}
    (silent : ∀ action ∈ meanwhile, ¬ action.Answers) {after : LoginPage}
    (answered : (SingleFlight.answeredThen LoginPage.form (self.loginService origin)
      (.error unreachable) system index circumstances meanwhile).view = after) :
    after.component.isLoading = false ∧ after.authService.tokenStorage = none ∧
      after.component.errorMessage = some (failureMessage "Login failed. Please try again." origin
        (publishedText site error)) := by
  have seen := receive_of_struck trusts rfl rfl struck reached
  have answer : ((self.loginService origin).handle system.server circumstances request).2 =
      .error (failureSeen origin (publishedText site error)) := by
    show (receive origin _).bind accessTokenOf = _
    rw [seen]
    rfl
  rw [SingleFlight.answeredThen_eq going circumstances silent, answer] at answered
  subst answered
  exact ⟨rfl, rfl, congrArg some (message_failureSeen (fun _ => rfl) rfl _)⟩

/-- A deployment that allows the development server of the frontend. -/
def crossOriginShop : Production :=
  ⟨{ referenceDeployment.config with origins := ["http://localhost:4200"] }, referenceLibraries⟩

theorem crossOriginShop_trusts : crossOriginShop.Trusts (some "http://localhost:4200") := by
  intro other same
  obtain rfl := Option.some.inj same
  exact Or.inr (List.mem_singleton.mpr rfl)

/-- Hashing runs out of memory. -/
private def exhausted (site : Site) : Circumstances where
  fault := some (site, .other "out of memory")
  salt := "salt"
  generated := ⟨1, "0b6c3a34-6a4f-4c0e-8f5e-6f2f1a9f7b21"⟩
  unhandled := by
    intro other error struck raised
    rintro rfl
    cases struck

private def rootRequest : LoginRequest := ⟨"root@example.com", "correct horse", by decide⟩

/-- The administrator's request is on its way. -/
private def signingIn :
    SingleFlight.Exchange LoginPage ServerState LoginRequest (Except FormError String) :=
  ⟨⟨.initial, ⟨none, .initial⟩⟩, Server.rootState, [.going rootRequest], none⟩

theorem login_struck_shown_verifyPassword :
    (SingleFlight.answeredThen LoginPage.form
      (crossOriginShop.loginService (some "http://localhost:4200")) (.error unreachable) signingIn
        0 (exhausted .verifyPassword) []).view.component.errorMessage =
      some (.string "Unable to connect to server") := by
  have going : signingIn.flights[0]? = some (.going rootRequest) := rfl
  have reached : (crossOriginShop.under Server.rootState (exhausted .verifyPassword)).Reaches
      (signIn (some "http://localhost:4200") rootRequest) .verifyPassword :=
    ⟨none, by rfl, Scripted.reaches_iff.mpr (by decide)⟩
  obtain ⟨-, -, message⟩ := login_struck_shown crossOriginShop_trusts going rfl reached
    (fun _ member => absurd member List.not_mem_nil) rfl
  exact message

/-! ### On the registration form -/

section Registration

variable {request : RegisterRequest}

/-- The preflight of a registration from a trusted origin is answered with leave to send
it. -/
theorem sends_of_trusts (isPublic : self.IsPublic "/api/v1/auth/register")
    (trusts : self.Trusts origin)
    (posts : origin ≠ none → HttpMethod.post ∈ self.config.allowMethods) :
    self.Sends origin state circumstances (registration origin request) := by
  cases origin with
  | none => exact Or.inl rfl
  | some other =>
      right
      have forwarded := @Deployment.forward_of_public (self.under state circumstances)
        (preflight (registration (some other) request)) none rfl isPublic
      have isAllowed : (self.under state circumstances).cors.isAllowedOrigin other = true := by
        rcases trusts other rfl with all | listed
        · exact Bool.or_eq_true_iff.mpr (Or.inl (decide_eq_true all))
        · exact Bool.or_eq_true_iff.mpr (Or.inr (decide_eq_true listed))
      have lists : "POST" ∈ (self.under state circumstances).cors.allowMethods.map
          HttpMethod.value := List.mem_map.mpr ⟨.post, posts (by simp), rfl⟩
      have answered : (self.under state circumstances).respond none
          (preflight (registration (some other) request)) =
            (self.under state circumstances).cors.preflightResponse other "POST" :=
        Deployment.respond_of_forwarded forwarded rfl
      dsimp only
      rw [answered]
      simp only [CORSMiddleware.preflightResponse, isAllowed, if_true, if_pos lists,
        List.append_nil]
      refine ⟨trivial, ?_⟩
      split
      · exact Or.inr (Or.inl rfl)
      · exact Or.inr (Or.inr rfl)

/-- The account of a registration one of whose calls failed is in the table only if it was
the serialisation of the response. -/
theorem registered_of_struck (isPublic : self.IsPublic "/api/v1/auth/register")
    (struck : circumstances.fault = some (site, error))
    (reached : (self.under state circumstances).Reaches (registration origin request) site) :
    (site ≠ .serializeResponse →
        self.registered state circumstances (registration origin request) = state.users) ∧
      (site = .serializeResponse → self.TellsRegistration
        ⟨self.registered state circumstances (registration origin request), state.now⟩ request
          (.ok ())) := by
  have notDecode := ne_decode_of_reaches rfl reached
  rw [Deployment.Reaches, if_neg notDecode] at reached
  obtain ⟨userTokenData, -, atSite⟩ := reached
  obtain ⟨user, parsed, called⟩ := registerUser_reaches atSite
  constructor
  · intro early
    have listed := called.resolve_right fun late => early late.1
    have strikes : strikesRegistration circumstances.fault = true := by
      rw [struck]
      exact decide_eq_true listed
    unfold registered
    split
    · rw [if_pos strikes]
    · rfl
  · rintro rfl
    obtain ⟨-, created, returned⟩ := called.resolve_left (by decide)
    have spared : strikesRegistration circumstances.fault = false := by
      rw [struck]
      rfl
    show ∃ row ∈ (self.registered state circumstances (registration origin request)).rows, _
    rw [registered_of_parsed isPublic parsed spared]
    exact created_row parsed returned

/-- From every state of the registration form with a request on its way: when a call of
the backend fails while handling it, the form ends up idle and shows the failure as the
login form does. The account does not exist, unless the call that failed was the
serialisation of the response; then it exists and logs in with the entered password,
although the form says that it failed. -/
theorem registration_struck_shown (isPublic : self.IsPublic "/api/v1/auth/register")
    (serves : ServesForms self.libraries) (documented : self.libraries.jwt.Documented)
    (acceptsOwn : self.libraries.pwdContext.AcceptsOwn) (trusts : self.Trusts origin)
    (posts : origin ≠ none → HttpMethod.post ∈ self.config.allowMethods)
    {system : SingleFlight.Exchange RegistrationViewComponent ServerState RegisterRequest
      (Except FormError Unit)} {index : Nat}
    (going : system.flights[index]? = some (.going request))
    (struck : circumstances.fault = some (site, error))
    (reached : (self.under system.server circumstances).Reaches (registration origin request)
      site)
    {meanwhile : List (SingleFlight.Action RegistrationEdit Circumstances Event)}
    (silent : ∀ action ∈ meanwhile, ¬ action.Answers)
    {after : SingleFlight.Exchange RegistrationViewComponent ServerState RegisterRequest
      (Except FormError Unit)}
    (answered : SingleFlight.answeredThen RegistrationViewComponent.form
      (self.registrationService origin) (.error unreachable) system index circumstances
        meanwhile = after) :
    after.view.isLoading = false ∧
      after.view.errorMessage = some (failureMessage "Registration failed. Please try again."
        origin (publishedText site error)) ∧
      (site ≠ .serializeResponse →
        ((self.registrationMachine origin).next system (.handle index circumstances)).server =
          system.server) ∧
      (site = .serializeResponse → ∃ row ∈ after.server.users.rows,
        self.libraries.emailStr request.email = some row.email ∧ row.role = .user ∧
          self.server.LogsInAs after.server row.email request.password row) := by
  have seen := receive_of_struck trusts rfl rfl struck reached
  have sends := @sends_of_trusts self origin system.server circumstances request isPublic trusts
    posts
  have handled : (self.registrationService origin).handle system.server circumstances request =
      ({ system.server with
          users := self.registered system.server circumstances (registration origin request) },
        .error (failureSeen origin (publishedText site error))) := by
    show self.register origin system.server circumstances request = _
    unfold register
    rw [if_pos sends, seen]
    rfl
  have table := registered_of_struck isPublic struck reached
  have handledServer :
      ((self.registrationMachine origin).next system (.handle index circumstances)).server =
        { system.server with
          users := self.registered system.server circumstances (registration origin request) } := by
    unfold registrationMachine
    rw [SingleFlight.server_handle going, handled]
  rw [SingleFlight.answeredThen_eq going circumstances silent, handled] at answered
  subst answered
  refine ⟨rfl, congrArg some (message_failureSeen (fun _ => rfl) rfl _), fun early => ?_,
    fun late => ?_⟩
  · rw [handledServer, table.1 early]
  · have created : self.TellsRegistration
        ((self.registrationMachine origin).next system (.handle index circumstances)).server
          request (.ok ()) := by
      rw [handledServer]
      exact table.2 late
    obtain ⟨row, listed, normal, role, salt, hashed⟩ :=
      (registration_told isPublic serves).kept_handledThen meanwhile created
    exact ⟨row, listed, normal, role, Server.logsInAs_of_mem documented acceptsOwn listed hashed⟩

private def userRequest : RegisterRequest := ⟨"user@example.com", "password", by decide, by decide⟩

private def signingUp : SingleFlight.Exchange RegistrationViewComponent ServerState RegisterRequest
    (Except FormError Unit) :=
  ⟨.initial, ⟨⟨[], List.nodup_nil⟩, 0⟩, [.going userRequest], none⟩

/-- The form says that no server was reached, and the account exists. -/
theorem registration_struck_shown_serializeResponse :
    ∃ after : SingleFlight.Exchange RegistrationViewComponent ServerState RegisterRequest
        (Except FormError Unit),
      after.view.errorMessage = some (.string "Unable to connect to server") ∧
        ∃ row, crossOriginShop.server.LogsInAs after.server row.email "password" row := by
  have isPublic : crossOriginShop.IsPublic "/api/v1/auth/register" := by
    show findMatchingPathConfig defaultPathAccess "/api/v1/auth/register" = none
    decide
  have going : signingUp.flights[0]? = some (.going userRequest) := rfl
  have reached : (crossOriginShop.under signingUp.server (exhausted .serializeResponse)).Reaches
      (registration (some "http://localhost:4200") userRequest) .serializeResponse :=
    ⟨none, by rfl, Scripted.reaches_iff.mpr (by decide)⟩
  obtain ⟨-, message, -, created⟩ := registration_struck_shown isPublic
    referenceLibraries_servesForms referenceJWT_documented referenceContext_acceptsOwn
    crossOriginShop_trusts (fun _ => by decide) going rfl reached
    (fun _ member => absurd member List.not_mem_nil) rfl
  obtain ⟨row, -, -, -, logsIn⟩ := created rfl
  exact ⟨_, message, row, logsIn⟩

end Registration

end Production

end DemoBase.EndToEnd
