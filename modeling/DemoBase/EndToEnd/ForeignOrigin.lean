import DemoBase.EndToEnd.FailureMessages

/-!
Owns the two forms when they were loaded from an origin the configuration does not allow.
The preflight keeps a registration from being sent, and no answer to a login is handed
over, so that to such a page the backend is a server nobody hears from.
-/

set_option autoImplicit false

namespace DemoBase.EndToEnd.Production

open DemoBase.Foundations DemoBase.Backend

open DemoBase.Frontend (FormError LoginRequest RegisterRequest LoginPage LoginEdit
  RegistrationViewComponent RegistrationEdit credentialsMissing registrationRefusals)

variable {self : Production} {origin : Option String}

/-! ### What such a page is answered -/

section Answers

variable {state : ServerState} {circumstances : Circumstances} {other : String}

theorem exists_untrusted (refused : ¬ self.Trusts origin) :
    ∃ other, origin = some other ∧ "*" ∉ self.config.origins ∧ other ∉ self.config.origins := by
  unfold Trusts at refused
  push Not at refused
  exact refused

theorem preflightResponse_of_not_allowed {cors : CORSMiddleware}
    (notAll : cors.allowAllOrigins = false) (absent : other ∉ cors.allowOrigins)
    (requestedMethod : String) :
    (cors.preflightResponse other requestedMethod).allowOrigin = none := by
  have refused : cors.isAllowedOrigin other = false := by
    simp [CORSMiddleware.isAllowedOrigin, notAll, absent]
  unfold CORSMiddleware.preflightResponse
  simp only [notAll, refused, Bool.false_and, Bool.false_eq_true, if_false]
  split <;> rfl

/-- No response carries a header for this origin, whichever layer made it. -/
theorem allowOrigin_of_untrusted (notAll : "*" ∉ self.config.origins)
    (unlisted : other ∉ self.config.origins) (fault : Fault) {request : Request}
    (sameOrigin : request.origin = some other) :
    ((self.under state circumstances).respond fault request).allowOrigin = none := by
  have allowAll : (self.under state circumstances).cors.allowAllOrigins = false :=
    decide_eq_false notAll
  have absent : other ∉ (self.under state circumstances).cors.allowOrigins := unlisted
  by_cases forwarded : ∃ tokenData, ((self.under state circumstances).authMiddleware
      fault).dispatch request (self.under state circumstances).world.now = .ok (.forward tokenData)
  · obtain ⟨tokenData, forwarded⟩ := forwarded
    by_cases preflight : request.IsPreflight
    · -- the CORS layer answers by itself
      rcases (self.under state circumstances).cors.call_of_preflight
        (exceptionMiddleware ((self.under state circumstances).router fault)) preflight tokenData
        with ⟨same, requestedMethod, hasOrigin, answered⟩
      obtain rfl : other = same := Option.some.inj (sameOrigin.symm.trans hasOrigin)
      rw [Deployment.respond_of_forwarded forwarded
        (ErrorMiddlewareConfig.dispatch_of_ok _ answered)]
      exact preflightResponse_of_not_allowed allowAll absent requestedMethod
    · have passed := (self.under state circumstances).cors.call_of_not_preflight
        (exceptionMiddleware ((self.under state circumstances).router fault)) sameOrigin preflight
        tokenData
      cases inside : exceptionMiddleware ((self.under state circumstances).router fault) request
        tokenData with
      | ok response =>
          rw [inside] at passed
          rw [Deployment.respond_of_forwarded forwarded
            (ErrorMiddlewareConfig.dispatch_of_ok _ passed)]
          simp [CORSMiddleware.simpleAllowOrigin, allowAll, absent]
      | error error =>
          rw [inside] at passed
          rcases ErrorMiddlewareConfig.allowOrigin_of_error
            (self.under state circumstances).config.errorMiddleware passed with
            ⟨response, answered, header⟩
          rw [Deployment.respond_of_forwarded forwarded answered]
          exact header
  · push Not at forwarded
    exact Deployment.respond_of_not_forwarded forwarded

theorem not_readable_of_untrusted (notAll : "*" ∉ self.config.origins)
    (unlisted : other ∉ self.config.origins) (fault : Fault) {request : Request}
    (sameOrigin : request.origin = some other) :
    ¬ Readable (some other) ((self.under state circumstances).respond fault request) := by
  have header := @allowOrigin_of_untrusted self state circumstances other notAll unlisted fault
    request sameOrigin
  simp [Readable, header]

theorem registrationService_inert (refused : ¬ self.Trusts origin) :
    (self.registrationService origin).Inert (.error unreachable) := by
  obtain ⟨other, rfl, notAll, unlisted⟩ := exists_untrusted refused
  intro state circumstances request
  have unsent : ¬ self.Sends (some other) state circumstances
      (registration (some other) request) := by
    rintro (impossible | ⟨-, readable⟩)
    · cases impossible
    · exact not_readable_of_untrusted notAll unlisted none rfl readable
  show self.register (some other) state circumstances request = _
  unfold register
  rw [if_neg unsent]

theorem loginService_inert (refused : ¬ self.Trusts origin) :
    (self.loginService origin).Inert (.error unreachable) := by
  obtain ⟨other, rfl, notAll, unlisted⟩ := exists_untrusted refused
  intro state circumstances request
  have unread : receive (some other) ((self.under state circumstances).respond
      circumstances.fault (signIn (some other) request)) = .error unreachable := by
    unfold receive
    rw [if_neg (not_readable_of_untrusted notAll unlisted circumstances.fault rfl)]
  show self.login (some other) state circumstances request = _
  unfold login
  rw [unread]
  rfl

end Answers

/-! ### What it does and shows -/

/-- In every run of the two forms on an origin the configuration does not allow, the
backend goes through what happens to it elsewhere and nothing else. No registration
succeeds and no token of an answered login is stored; the forms show their own refusals,
or that no server was reached. -/
theorem untrusted_origin_isolated (refused : ¬ self.Trusts origin) (server : ServerState) :
    (∀ past system, Machine.Run (self.registrationMachine origin) Machine.unrestricted
        (SingleFlight.opened .initial server) past system →
      system.server = (SingleFlight.events past).foldr
          (fun event state => self.server.machine.next state event) server ∧
        system.view.successMessage = none ∧
        ∀ message, system.view.errorMessage = some message →
          message ∈ registrationRefusals ∨ message = .string "Unable to connect to server") ∧
    ∀ authService past system, Machine.Run (self.loginMachine origin) Machine.unrestricted
        (SingleFlight.opened ⟨.initial, authService⟩ server) past system →
      system.server = (SingleFlight.events past).foldr
          (fun event state => self.server.machine.next state event) server ∧
        (system.settled ≠ none → system.view.authService.tokenStorage = none) ∧
        ∀ message, system.view.component.errorMessage = some message →
          message = credentialsMissing ∨ message = .string "Unable to connect to server" := by
  constructor
  · intro past system run
    have inert := registrationService_inert refused
    obtain ⟨-, truthful⟩ := SingleFlight.exchange_of_run
      RegistrationViewComponent.form_disciplined inert.told
      RegistrationViewComponent.form_reflects rfl RegistrationViewComponent.shows_initial run
    refine ⟨inert.server_of_run run, ?_, fun message shown => ?_⟩
    · by_contra succeeded
      rcases truthful.shown.success succeeded with ⟨request, settled⟩
      cases truthful.settled request _ settled
    · rcases truthful.shown.message message shown with own | ⟨request, error, settled, rfl⟩
      · exact Or.inl own
      · obtain rfl := Except.error.inj (truthful.settled request _ settled)
        exact Or.inr rfl
  · intro authService past system run
    have inert := loginService_inert refused
    obtain ⟨-, truthful⟩ := SingleFlight.exchange_of_run LoginPage.form_disciplined inert.told
      LoginPage.form_reflects rfl (LoginPage.shows_initial authService) run
    refine ⟨inert.server_of_run run, fun answered => ?_, fun message shown => ?_⟩
    · obtain ⟨⟨request, answer⟩, settled⟩ := Option.ne_none_iff_exists'.mp answered
      by_contra present
      rcases Option.ne_none_iff_exists'.mp present with ⟨token, stored⟩
      have brought := truthful.shown.token request answer settled token stored
      have lost := truthful.settled request answer settled
      rw [brought] at lost
      cases lost
    · rcases truthful.shown.message message shown with own | ⟨request, error, settled, rfl⟩
      · exact Or.inl own
      · obtain rfl := Except.error.inj (truthful.settled request _ settled)
        exact Or.inr rfl

/-- A page of another site submits the administrator's address and password. -/
private def phishes : List (SingleFlight.Action LoginEdit Circumstances Event) :=
  [.edit (.email "root@example.com"), .edit (.password "correct horse"), .submit,
    .handle 0 quiet, .arrive 0]

private def elsewhereAtLogin : SingleFlight.Exchange LoginPage ServerState LoginRequest
    (Except FormError String) :=
  SingleFlight.opened ⟨.initial, ⟨none, .initial⟩⟩ Server.rootState

theorem untrusted_origin_isolated_phishing :
    ((crossOriginShop.loginMachine (some "http://localhost:8080")).execute [] elsewhereAtLogin
      phishes).2.view.authService.tokenStorage = none := by
  have refused : ¬ crossOriginShop.Trusts (some "http://localhost:8080") := by
    intro trusts
    rcases trusts _ rfl with all | listed
    · exact absurd all (by decide)
    · exact absurd listed (by decide)
  have run := (crossOriginShop.loginMachine (some "http://localhost:8080")).run_unrestricted
    elsewhereAtLogin phishes
  obtain ⟨-, nothingStored, -⟩ := (untrusted_origin_isolated refused Server.rootState).2 _ _ _ run
  apply nothingStored
  decide

end DemoBase.EndToEnd.Production
