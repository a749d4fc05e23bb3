import DemoBase.Frontend.AuthInterceptor

/-!
Owns sessions in which every request is answered before the next operation
starts, and the states such a session passes through: whether a user stays cached
after the token is gone.
-/

set_option autoImplicit false

namespace DemoBase.Frontend

open DemoBase.Foundations

/-- An operation together with the answer of the request it sends, if it sends
one. `request` is any other request through `HttpClient`. -/
inductive Operation where
  | login (response : Except HttpErrorResponse String)
  | logout
  | loadCurrentUser (answer : Answer)
  | request (url : String) (answer : Answer)

/-- Without a token there is no user, no admin and no request for one. -/
structure AuthService.Consistent (authService : AuthService) : Prop where
  currentUser : authService.tokenStorage = none → authService.userInfoService.currentUser = none
  isAdmin : authService.tokenStorage = none → authService.userInfoService.isAdmin = false
  request : authService.tokenStorage = none → authService.userInfoService.request = none

namespace AuthService

variable {self : AuthService}

theorem consistent_of_token (token : self.tokenStorage ≠ none) : self.Consistent :=
  ⟨fun absent => absurd absent token, fun absent => absurd absent token,
    fun absent => absurd absent token⟩

/-- No user, no admin. -/
theorem consistent_of_cleared (user : self.userInfoService.currentUser = none)
    (request : self.userInfoService.request = none) : self.Consistent := by
  refine ⟨fun _ => user, fun _ => ?_, fun _ => request⟩
  unfold UserInfoService.isAdmin
  rw [user]

end AuthService

namespace Tab

variable (backendUrl : String) (self : Tab)

/-- The actions of an operation. An answer to a request that was not sent finds
nothing waiting for it. -/
def actions : Operation → List TabAction
  | .login (.ok accessToken) => [.loginSucceeds accessToken]
  | .login (.error _) => [.loginFails]
  | .logout => [.logout]
  | .loadCurrentUser answer => [.loadCurrentUser, .deliver self.sent answer]
  | .request url answer => [.send url, .deliver self.sent answer]

def perform (operation : Operation) : Tab :=
  (self.actions operation).foldl (Tab.step backendUrl) self

def sessions : Machine Tab Operation Unit :=
  ⟨fun tab operation => (tab.perform backendUrl operation, ())⟩

/-- No request is on its way. -/
structure Settled (tab : Tab) : Prop where
  outgoing : tab.outgoing = []
  pending : tab.browser.pending = []

/-- The operation leaves nothing of the user behind: a failing login finds no user
and no request cached, and a request sent without a token is not answered with a
user. -/
def Tidy (operation : Operation) : Prop :=
  match operation with
  | .login (.error _) =>
      self.browser.userInfo.currentUser = none ∧ self.browser.userInfo.request = none
  | .loadCurrentUser (.ok _) => self.authService.tokenStorage ≠ none
  | _ => True

variable {self}

/-- Answering the only request on its way. -/
theorem step_deliver_only {request : SentRequest} (only : self.outgoing = [request])
    (answer : Answer) :
    (self.step backendUrl (.deliver request.id answer)).outgoing = [] ∧
      (self.step backendUrl (.deliver request.id answer)).browser =
        match request.userInfo with
        | none => intercepted self.browser request.url answer
        | some number =>
            (intercepted self.browser request.url answer).step (.deliver number answer) := by
  have found : self.waiting request.id = some request := by
    simp [waiting, only]
  refine ⟨?_, step_deliver_browser backendUrl found answer⟩
  rw [step_deliver_outgoing backendUrl found, only]
  simp

/-- Nothing waits for an answer, so it changes nothing. -/
theorem step_deliver_nothing (nothing : self.outgoing = []) (id : Nat) (answer : Answer) :
    self.step backendUrl (.deliver id answer) = self :=
  step_deliver_unasked backendUrl (by rw [waiting, nothing, List.find?_nil]) answer

theorem step_send (settled : self.Settled) (url : String) :
    (self.step backendUrl (.send url)).browser = self.browser ∧
      ∃ authorization, (self.step backendUrl (.send url)).outgoing =
        [⟨self.sent, url, authorization, none⟩] := by
  refine ⟨rfl, self.authService.authorizationFor url, ?_⟩
  simp [step, sends, settled.outgoing]

/-- A cached request is handed out again and nothing is sent. -/
theorem step_loadCurrentUser_cached (settled : self.Settled) {number : Nat}
    (cached : self.browser.userInfo.request = some number) :
    self.step backendUrl .loadCurrentUser = self := by
  have handedOut : self.browser.userInfo.loadCurrentUser self.browser.issued =
      (self.browser.userInfo, false) := by
    simp only [UserInfoService.loadCurrentUser, cached]
  obtain ⟨⟨authService, issued, pending, clearedAt⟩, sent, outgoing⟩ := self
  obtain rfl : outgoing = [] := settled.outgoing
  simp only [step, serviceActions, sends, answers, List.foldl, Browser.step, handedOut]
  simp [Browser.userInfo]

theorem step_loadCurrentUser_uncached (settled : self.Settled)
    (uncached : self.browser.userInfo.request = none) :
    (self.step backendUrl .loadCurrentUser).browser =
        { self.browser with
          authService :=
            { self.authService with
              userInfoService :=
                { self.browser.userInfo with
                  isLoading := true, error := none, request := some self.browser.issued } }
          issued := self.browser.issued + 1
          pending := [self.browser.issued] } ∧
      ∃ authorization, (self.step backendUrl .loadCurrentUser).outgoing =
        [⟨self.sent, usersMeUrl backendUrl, authorization, some self.browser.issued⟩] := by
  constructor
  · show self.browser.step .loadCurrentUser = _
    rw [Browser.step_loadCurrentUser_uncached uncached, settled.pending]
    rfl
  · rw [outgoing_loadCurrentUser_uncached backendUrl uncached, settled.outgoing]
    exact ⟨_, rfl⟩

/-- Every operation ends with no request on its way. -/
theorem Settled.perform (settled : self.Settled) (operation : Operation) :
    (self.perform backendUrl operation).Settled := by
  have keeps : ∀ action : TabAction, self.sends backendUrl action = none →
      (self.step backendUrl action).outgoing = [] := by
    intro action sendsNone
    simp [step, sendsNone, settled.outgoing]
  cases operation with
  | login response =>
      cases response with
      | ok accessToken => exact ⟨keeps (.loginSucceeds accessToken) rfl, settled.pending⟩
      | error error => exact ⟨keeps .loginFails rfl, settled.pending⟩
  | logout => exact ⟨keeps .logout rfl, settled.pending⟩
  | loadCurrentUser answer =>
      show ((self.step backendUrl .loadCurrentUser).step backendUrl
        (.deliver self.sent answer)).Settled
      cases cached : self.browser.userInfo.request with
      | some number =>
          rw [step_loadCurrentUser_cached backendUrl settled cached,
            step_deliver_nothing backendUrl settled.outgoing]
          exact settled
      | none =>
          rcases step_loadCurrentUser_uncached backendUrl settled cached with
            ⟨waiting, authorization, only⟩
          rcases step_deliver_only backendUrl only answer with ⟨delivered, seen⟩
          refine ⟨delivered, ?_⟩
          rw [seen, waiting]
          simp [Browser.step, intercepted_pending]
  | request url answer =>
      show ((self.step backendUrl (.send url)).step backendUrl (.deliver self.sent answer)).Settled
      rcases step_send backendUrl settled url with ⟨same, authorization, only⟩
      rcases step_deliver_only backendUrl only answer with ⟨delivered, seen⟩
      refine ⟨delivered, ?_⟩
      rw [seen, same]
      exact (intercepted_pending self.browser url answer).trans settled.pending

/-- Whatever the interceptor does to a consistent session, it is consistent. -/
theorem intercepted_consistent {browser : Browser} (consistent : browser.authService.Consistent)
    (url : String) (answer : Answer) :
    (intercepted browser url answer).authService.Consistent := by
  unfold intercepted
  by_cases logs : logsOut url answer = true
  · rw [if_pos logs]
    exact AuthService.consistent_of_cleared rfl rfl
  · rw [if_neg logs]
    exact consistent

/-- A failed request for the user is forgotten, so only the user is left to look at. -/
theorem consistent_deliver_error {browser : Browser} {number : Nat}
    (inFlight : number ∈ browser.pending)
    (user : browser.authService.tokenStorage = none → browser.userInfo.currentUser = none)
    (error : HttpErrorResponse) :
    (browser.step (.deliver number (.error error))).authService.Consistent := by
  simp only [Browser.step, if_pos inFlight]
  refine ⟨user, fun absent => ?_, fun _ => rfl⟩
  have nobody : browser.userInfo.currentUser = none := user absent
  simp only [UserInfoService.settle, UserInfoService.isAdmin, nobody]

/-- The answer to a request for the user keeps a session consistent unless it is a
user and there is no token. -/
theorem consistent_loadCurrentUser (settled : self.Settled)
    (consistent : self.authService.Consistent) (answer : Answer) :
    (self.perform backendUrl (.loadCurrentUser answer)).authService.Consistent ↔
      self.Tidy (.loadCurrentUser answer) := by
  show ((self.step backendUrl .loadCurrentUser).step backendUrl
    (.deliver self.sent answer)).authService.Consistent ↔ _
  cases cached : self.browser.userInfo.request with
  | some number =>
      rw [step_loadCurrentUser_cached backendUrl settled cached,
        step_deliver_nothing backendUrl settled.outgoing]
      have token : self.authService.tokenStorage ≠ none := by
        intro absent
        have forgotten : self.browser.userInfo.request = none := consistent.request absent
        rw [cached] at forgotten
        cases forgotten
      refine iff_of_true consistent ?_
      cases answer with
      | ok user => exact token
      | error error => trivial
  | none =>
      rcases step_loadCurrentUser_uncached backendUrl settled cached with
        ⟨waiting, authorization, only⟩
      rcases step_deliver_only backendUrl only answer with ⟨-, seen⟩
      unfold authService
      rw [seen]
      dsimp only
      cases answer with
      | ok user =>
          rw [intercepted_ok, waiting]
          simp only [Browser.step, List.mem_singleton, if_true]
          constructor
          · intro after absent
            have nobody := after.currentUser absent
            cases nobody
          · intro token
            exact AuthService.consistent_of_token token
      | error error =>
          refine iff_of_true ?_ trivial
          have inFlight : self.browser.issued ∈
              (intercepted (self.step backendUrl .loadCurrentUser).browser
                (usersMeUrl backendUrl) (.error error)).pending := by
            rw [intercepted_pending, waiting]
            exact List.mem_cons_self
          apply consistent_deliver_error inFlight
          unfold intercepted
          by_cases logs : logsOut (usersMeUrl backendUrl) (.error error) = true
          · rw [if_pos logs]
            exact fun _ => rfl
          · rw [if_neg logs, waiting]
            exact consistent.currentUser

/-- One operation keeps a session consistent exactly when it is tidy. -/
theorem consistent_perform (settled : self.Settled) (consistent : self.authService.Consistent)
    (operation : Operation) :
    (self.perform backendUrl operation).authService.Consistent ↔ self.Tidy operation := by
  cases operation with
  | login response =>
      cases response with
      | ok accessToken =>
          exact iff_of_true (AuthService.consistent_of_token (by simp [perform, actions, step,
            serviceActions, Browser.step, AuthService.login, authService])) trivial
      | error error =>
          constructor
          · intro after
            exact ⟨after.currentUser rfl, after.request rfl⟩
          · intro tidy
            exact AuthService.consistent_of_cleared tidy.1 tidy.2
  | logout => exact iff_of_true (AuthService.consistent_of_cleared rfl rfl) trivial
  | loadCurrentUser answer => exact consistent_loadCurrentUser backendUrl settled consistent answer
  | request url answer =>
      show ((self.step backendUrl (.send url)).step backendUrl
        (.deliver self.sent answer)).authService.Consistent ↔ _
      rcases step_send backendUrl settled url with ⟨same, authorization, only⟩
      rcases step_deliver_only backendUrl only answer with ⟨-, seen⟩
      refine iff_of_true ?_ trivial
      unfold authService
      rw [seen, same]
      exact intercepted_consistent consistent url answer

theorem settled_of_run {environment : Machine.Environment Tab Operation Unit}
    {token : Option String} {past : Machine.History Tab Operation Unit} {tab : Tab}
    (run : Machine.Run (sessions backendUrl) environment (opened token) past tab) :
    tab.Settled := by
  apply run.invariant
  · exact ⟨rfl, rfl⟩
  · intro earlier before operation _ _ settled
    exact settled.perform backendUrl operation

/-- In every session, no user stays cached without a token exactly when every
operation is tidy. -/
theorem consistent_throughout_iff {token : Option String}
    {past : Machine.History Tab Operation Unit} {tab : Tab}
    (run : Machine.Run (sessions backendUrl) Machine.unrestricted (opened token) past tab) :
    Machine.Throughout (fun _ tab => tab.authService.Consistent) past tab ↔
      ∀ answered ∈ past, Tidy answered.before answered.input := by
  apply run.throughout_iff
  · exact AuthService.consistent_of_cleared rfl rfl
  · intro earlier before operation reached _ consistent
    exact consistent_perform backendUrl (settled_of_run backendUrl reached) consistent operation

private def adminUser : UserInfo := ⟨"8d8c45ab", "admin@example.com", true, adminRole⟩

private def signedInAndOut : List Operation :=
  [.login (.ok "first"), .loadCurrentUser (.ok adminUser), .logout]

theorem consistent_throughout_signedInAndOut :
    Machine.Throughout (fun _ tab => tab.authService.Consistent)
      ((sessions "").execute [] (opened none) signedInAndOut).1
      ((sessions "").execute [] (opened none) signedInAndOut).2 := by
  apply (consistent_throughout_iff "" ((sessions "").run_unrestricted (opened none)
    signedInAndOut)).mpr
  intro answered member
  simp only [signedInAndOut, Machine.execute, List.mem_cons, List.not_mem_nil, or_false] at member
  rcases member with rfl | rfl | rfl
  · trivial
  · exact fun absent => by cases absent
  · trivial

private def secondLoginFails : List Operation :=
  [.login (.ok "first"), .loadCurrentUser (.ok adminUser), .login (.error ⟨401, .null⟩)]

/-- A failing login while an administrator is signed in drops the token and keeps
the administrator. -/
theorem consistent_fails_after_failed_login :
    ∃ past tab, Machine.Run (sessions "") Machine.unrestricted (opened none) past tab ∧
      tab.authService.tokenStorage = none ∧
      tab.browser.userInfo.currentUser = some adminUser ∧ tab.browser.userInfo.isAdmin = true ∧
      ¬ tab.authService.Consistent := by
  have run := (sessions "").run_unrestricted (opened none) secondLoginFails
  refine ⟨_, _, run, by decide, by decide, by decide, ?_⟩
  intro consistent
  have admin := consistent.isAdmin (by decide)
  revert admin
  decide

end Tab

end DemoBase.Frontend
