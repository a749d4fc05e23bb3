import Mathlib.Data.List.Infix
import DemoBase.Frontend.SessionCache

/-!
Owns `authInterceptor` and a browser tab whose requests all pass through it. The
interceptor attaches the token that is stored when a request is sent, and logs out
on its 401 whatever is stored when that arrives.
-/

set_option autoImplicit false

namespace DemoBase.Frontend

open DemoBase.Foundations

/-- `String.prototype.includes`. -/
def includes (text searched : String) : Bool := decide (searched.toList <:+: text.toList)

def publicAuthPaths : List String := ["/auth/login", "/auth/register"]

def isPublicAuthPath (url : String) : Bool := publicAuthPaths.any fun path => includes url path

/-- The `Authorization` header `authInterceptor` sends a request with. -/
def AuthService.authorizationFor (self : AuthService) (url : String) : Option String :=
  if isPublicAuthPath url then none else self.getAuthorizationHeader

/-- Whether the `catchError` of `authInterceptor` calls `logout` on this answer. -/
def logsOut (url : String) (answer : Answer) : Bool :=
  match answer with
  | .ok _ => false
  | .error error => !isPublicAuthPath url && error.status == 401

/-- A request on its way. `userInfo` is the number under which `UserInfoService`
waits for its answer, if it does. -/
structure SentRequest where
  id : Nat
  url : String
  authorization : Option String
  userInfo : Option Nat
deriving DecidableEq, Repr

structure Tab where
  browser : Browser
  sent : Nat
  outgoing : List SentRequest

/-- `send` is any other request through `HttpClient`. What its caller does with
the body does not concern the session, so every answer is typed alike. -/
inductive TabAction where
  | loadCurrentUser
  | loginSucceeds (accessToken : String)
  | loginFails
  | logout
  | send (url : String)
  | deliver (id : Nat) (answer : Answer)

namespace Tab

def opened (token : Option String) : Tab := ⟨.opened token, 0, []⟩

variable (backendUrl : String) (self : Tab)

def authService : AuthService := self.browser.authService

def usersMeUrl : String := backendUrl ++ "/api/v1" ++ "/users/me"

def waiting (id : Nat) : Option SentRequest := self.outgoing.find? fun request => request.id = id

/-- What an action does to the two services, in order. The interceptor handles an
answer before the callbacks of `UserInfoService` see it. -/
def serviceActions : TabAction → List Action
  | .loadCurrentUser => [.loadCurrentUser]
  | .loginSucceeds accessToken => [.loginSucceeds accessToken]
  | .loginFails => [.loginFails]
  | .logout => [.logout]
  | .send _ => []
  | .deliver id answer =>
      match self.waiting id with
      | none => []
      | some request =>
          (if logsOut request.url answer then [.logout] else []) ++
            match request.userInfo with
            | none => []
            | some number => [.deliver number answer]

/-- The request an action sends. -/
def sends : TabAction → Option SentRequest
  | .loadCurrentUser =>
      if (self.browser.userInfo.loadCurrentUser self.browser.issued).2 then
        some ⟨self.sent, usersMeUrl backendUrl,
          self.authService.authorizationFor (usersMeUrl backendUrl), some self.browser.issued⟩
      else none
  | .send url => some ⟨self.sent, url, self.authService.authorizationFor url, none⟩
  | _ => none

/-- The request an action answers. -/
def answers : TabAction → Option SentRequest
  | .deliver id _ => self.waiting id
  | _ => none

def step (action : TabAction) : Tab where
  browser := (self.serviceActions action).foldl Browser.step self.browser
  sent := self.sent + (self.sends backendUrl action).toList.length
  outgoing := (self.sends backendUrl action).toList ++
    self.outgoing.filter fun request => self.answers action ≠ some request

def machine : Machine Tab TabAction Unit := ⟨fun tab action => (tab.step backendUrl action, ())⟩

abbrev Answered := Machine.Entry Tab TabAction Unit

abbrev Past := Machine.History Tab TabAction Unit

/-- The action delivers a 401 for `request`, which the interceptor handles. -/
def Unauthorized (action : TabAction) (request : SentRequest) : Prop :=
  ∃ id error, action = .deliver id (.error error) ∧ error.status = 401 ∧
    self.waiting id = some request ∧ isPublicAuthPath request.url = false

def ChangesSession (action : TabAction) : Prop :=
  (∃ accessToken, action = .loginSucceeds accessToken) ∨ action = .loginFails ∨
    action = .logout ∨ ∃ request, self.Unauthorized action request

/-- No login, logout or handled 401 among these actions. -/
def Quiet (past : Past) : Prop := ∀ answered ∈ past, ¬answered.before.ChangesSession answered.input

/-- A 401 changes nothing when the token its request was sent with is no longer
the stored one. -/
def SparesNewerSessions (past : Past) : Prop :=
  ∀ answered ∈ past, ∀ request, answered.before.Unauthorized answered.input request →
    ∀ token, request.authorization = some ("Bearer " ++ token) →
      answered.before.authService.tokenStorage ≠ some token →
        ((machine backendUrl).next answered.before answered.input).authService =
          answered.before.authService

structure LoggedOut (authService : AuthService) : Prop where
  token : authService.tokenStorage = none
  user : authService.userInfoService.currentUser = none
  request : authService.userInfoService.request = none

variable {backendUrl self}

/-- The services of a tab go through a run of the session cache. -/
theorem browser_run {token : Option String} {past : Past} {tab : Tab}
    (run : Machine.Run (machine backendUrl) Machine.unrestricted (opened token) past tab) :
    ∃ cachePast, Machine.Run Browser.machine Machine.unrestricted (.opened token) cachePast
      tab.browser := by
  apply run.invariant
  · exact ⟨[], .start⟩
  · intro earlier before action _ _ browserBefore
    obtain ⟨cachePast, cacheRun⟩ := browserBefore
    have together := Browser.machine.run_execute cacheRun
      (Browser.machine.allows_unrestricted (before.serviceActions action))
    rw [Browser.machine.execute_state] at together
    exact ⟨_, together⟩

theorem logsOut_iff {url : String} {answer : Answer} : logsOut url answer = true ↔
    ∃ error, answer = .error error ∧ error.status = 401 ∧ isPublicAuthPath url = false := by
  cases answer with
  | ok user => simp [logsOut]
  | error error => simp [logsOut, and_comm]

theorem unauthorized_of_logsOut {id : Nat} {answer : Answer} {request : SentRequest}
    (inFlight : self.waiting id = some request) (logs : logsOut request.url answer = true) :
    self.Unauthorized (.deliver id answer) request := by
  rcases logsOut_iff.mp logs with ⟨error, rfl, status, intercepted⟩
  exact ⟨id, error, rfl, status, inFlight, intercepted⟩

/-- The token after an action that is neither a login, a logout nor a handled
401. -/
theorem token_next {action : TabAction} (quiet : ¬self.ChangesSession action) :
    ((machine backendUrl).next self action).authService.tokenStorage =
      self.authService.tokenStorage := by
  show ((self.serviceActions action).foldl Browser.step self.browser).authService.tokenStorage = _
  cases action with
  | loadCurrentUser => exact Browser.loadCurrentUser_keeps.1
  | loginSucceeds accessToken => exact absurd (.inl ⟨accessToken, rfl⟩) quiet
  | loginFails => exact absurd (.inr (.inl rfl)) quiet
  | logout => exact absurd (.inr (.inr (.inl rfl))) quiet
  | send url => rfl
  | deliver id answer =>
      simp only [serviceActions]
      cases inFlight : self.waiting id with
      | none => rfl
      | some request =>
          have passes : logsOut request.url answer ≠ true := by
            intro logs
            exact quiet (.inr (.inr (.inr ⟨request, unauthorized_of_logsOut inFlight logs⟩)))
          simp only [if_neg passes, List.nil_append]
          cases request.userInfo with
          | none => rfl
          | some number => exact (Browser.deliver_keeps number answer).1

theorem LoggedOut.deliver_error {browser : Browser} {number : Nat} {error : HttpErrorResponse}
    (loggedOut : LoggedOut browser.authService) :
    LoggedOut (browser.step (.deliver number (.error error))).authService := by
  unfold Browser.step
  by_cases inFlight : number ∈ browser.pending
  · simp only [if_pos inFlight]
    exact ⟨loggedOut.token, loggedOut.user, rfl⟩
  · simp only [if_neg inFlight]
    exact loggedOut

/-- A handled 401 logs out whatever the state is, also when `UserInfoService` sees
the error afterwards. -/
theorem loggedOut_next {action : TabAction} {request : SentRequest}
    (unauthorized : self.Unauthorized action request) :
    LoggedOut ((machine backendUrl).next self action).authService := by
  obtain ⟨id, error, rfl, status, inFlight, intercepted⟩ := unauthorized
  have logs : logsOut request.url (.error error) = true :=
    logsOut_iff.mpr ⟨error, rfl, status, intercepted⟩
  show LoggedOut
    ((self.serviceActions (.deliver id (.error error))).foldl Browser.step self.browser).authService
  simp only [serviceActions, inFlight, if_pos logs]
  have cleared : LoggedOut (self.browser.step .logout).authService := ⟨rfl, rfl, rfl⟩
  cases request.userInfo with
  | none => exact cleared
  | some number =>
      exact cleared.deliver_error

/-- With no request cached, `loadCurrentUser` sends one that `UserInfoService` waits
for. -/
theorem outgoing_loadCurrentUser_uncached (backendUrl : String)
    (uncached : self.browser.userInfo.request = none) :
    (self.step backendUrl .loadCurrentUser).outgoing =
      ⟨self.sent, usersMeUrl backendUrl,
        self.authService.authorizationFor (usersMeUrl backendUrl),
        some self.browser.issued⟩ :: self.outgoing := by
  have issues : (self.browser.userInfo.loadCurrentUser self.browser.issued).2 = true := by
    simp only [UserInfoService.loadCurrentUser, uncached]
  simp [step, sends, answers, issues]

/-- The browser once the interceptor has seen an answer. -/
def intercepted (browser : Browser) (url : String) (answer : Answer) : Browser :=
  if logsOut url answer = true then browser.step .logout else browser

theorem intercepted_pending (browser : Browser) (url : String) (answer : Answer) :
    (intercepted browser url answer).pending = browser.pending := by
  unfold intercepted
  split <;> rfl

/-- An answer with a user is none that logs out. -/
theorem intercepted_ok (browser : Browser) (url : String) (user : UserInfo) :
    intercepted browser url (.ok user) = browser :=
  rfl

/-- An answered request: the interceptor sees the answer first. -/
theorem step_deliver_browser (backendUrl : String) {id : Nat} {request : SentRequest}
    (found : self.waiting id = some request) (answer : Answer) :
    (self.step backendUrl (.deliver id answer)).browser =
      match request.userInfo with
      | none => intercepted self.browser request.url answer
      | some number =>
          (intercepted self.browser request.url answer).step (.deliver number answer) := by
  simp only [step, serviceActions, found, intercepted]
  cases request.userInfo with
  | none => split <;> rfl
  | some number => split <;> rfl

theorem step_deliver_outgoing (backendUrl : String) {id : Nat} {request : SentRequest}
    (found : self.waiting id = some request) (answer : Answer) :
    (self.step backendUrl (.deliver id answer)).outgoing =
      self.outgoing.filter fun other => some request ≠ some other := by
  simp only [step, sends, answers, found]
  rfl

/-- An answer nothing waits for changes nothing. -/
theorem step_deliver_unasked (backendUrl : String) {id : Nat}
    (unasked : self.waiting id = none) (answer : Answer) :
    self.step backendUrl (.deliver id answer) = self := by
  obtain ⟨browser, sent, outgoing⟩ := self
  simp [step, serviceActions, sends, answers, unasked]

theorem deliver_quiet {id : Nat} {answer : Answer}
    (ignored : ∀ request, ¬self.Unauthorized (.deliver id answer) request) :
    ¬self.ChangesSession (.deliver id answer) := by
  intro changes
  rcases changes with ⟨accessToken, impossible⟩ | impossible | impossible | ⟨request, unauthorized⟩
  · cases impossible
  · cases impossible
  · cases impossible
  · exact ignored request unauthorized

theorem deliver_ignored {id : Nat} {answer : Answer}
    (ignored : ∀ request, ¬self.Unauthorized (.deliver id answer) request)
    (unasked : ∀ request, self.waiting id = some request → request.userInfo = none) :
    ((machine backendUrl).next self (.deliver id answer)).authService = self.authService := by
  show ((self.serviceActions (.deliver id answer)).foldl Browser.step self.browser).authService = _
  simp only [serviceActions]
  cases inFlight : self.waiting id with
  | none => rfl
  | some request =>
      have passes : logsOut request.url answer ≠ true := by
        intro logs
        exact ignored request (unauthorized_of_logsOut inFlight logs)
      simp only [if_neg passes, unasked request inFlight]
      rfl

/-- Every request on its way was sent with the header of the token stored then. -/
theorem outgoing_of_run {environment : Machine.Environment Tab TabAction Unit}
    {token : Option String} {past : Past} {tab : Tab}
    (run : Machine.Run (machine backendUrl) environment (opened token) past tab) :
    ∀ request ∈ tab.outgoing,
      ∃ sending ∈ past, sending.before.sends backendUrl sending.input = some request := by
  apply run.invariant
  · intro request impossible
    simp [opened] at impossible
  · intro earlier before action _ _ sentBefore request member
    change request ∈ (before.step backendUrl action).outgoing at member
    rcases List.mem_append.mp member with sentNow | kept
    · exact ⟨_, List.mem_cons_self, Option.mem_toList.mp sentNow⟩
    · rcases sentBefore request (List.mem_of_mem_filter kept) with ⟨sending, older, sent⟩
      exact ⟨sending, List.mem_cons_of_mem _ older, sent⟩

theorem authorization_of_sends {action : TabAction} {request : SentRequest}
    (sent : self.sends backendUrl action = some request)
    (intercepted : isPublicAuthPath request.url = false) :
    request.authorization = self.authService.getAuthorizationHeader := by
  have header : request.authorization = self.authService.authorizationFor request.url := by
    cases action with
    | loadCurrentUser =>
        simp only [sends] at sent
        by_cases issues : (self.browser.userInfo.loadCurrentUser self.browser.issued).2 = true
        · rw [if_pos issues] at sent
          obtain rfl := Option.some.inj sent
          rfl
        · rw [if_neg issues] at sent
          cases sent
    | send url =>
        obtain rfl := Option.some.inj sent
        rfl
    | loginSucceeds accessToken => cases sent
    | loginFails => cases sent
    | logout => cases sent
    | deliver id answer => cases sent
  rw [header]
  unfold AuthService.authorizationFor
  rw [intercepted]
  rfl

theorem token_step {action : TabAction} {token : String}
    (stored : (self.step backendUrl action).authService.tokenStorage = some token) :
    self.authService.tokenStorage = some token ∨ action = .loginSucceeds token := by
  rcases Browser.token_foldl (self.serviceActions action) stored with before | stores
  · exact Or.inl before
  · right
    cases action with
    | loginSucceeds accessToken => simpa [serviceActions, eq_comm] using stores
    | deliver id answer =>
        simp only [serviceActions] at stores
        split at stores
        · cases stores
        · split at stores <;> split at stores <;> simp at stores
    | loadCurrentUser => simp [serviceActions] at stores
    | loginFails => simp [serviceActions] at stores
    | logout => simp [serviceActions] at stores
    | send url => simp [serviceActions] at stores

/-- Only the answer to a request of `UserInfoService` shows a user. -/
theorem currentUser_step {action : TabAction} {user : UserInfo}
    (shown : (self.step backendUrl action).browser.userInfo.currentUser = some user) :
    self.browser.userInfo.currentUser = some user ∨
      ∃ id request, action = .deliver id (.ok user) ∧ self.waiting id = some request ∧
        request.userInfo ≠ none := by
  rcases Browser.currentUser_foldl (self.serviceActions action) shown with before | ⟨number, shows⟩
  · exact Or.inl before
  · right
    cases action with
    | deliver id answer =>
        simp only [serviceActions] at shows
        cases found : self.waiting id with
        | none => simp [found] at shows
        | some request =>
            cases waits : request.userInfo with
            | none =>
                simp only [found, waits, List.append_nil] at shows
                split at shows <;> simp at shows
            | some awaited =>
                simp only [found, waits] at shows
                obtain rfl : answer = .ok user := by
                  split at shows <;> simp at shows <;> exact shows.2.symm
                exact ⟨id, request, rfl, found, by simp [waits]⟩
    | loginSucceeds accessToken => simp [serviceActions] at shows
    | loadCurrentUser => simp [serviceActions] at shows
    | loginFails => simp [serviceActions] at shows
    | logout => simp [serviceActions] at shows
    | send url => simp [serviceActions] at shows

/-- A request is on its way after an action when it was before or the action sent it. -/
theorem mem_outgoing_step {action : TabAction} {request : SentRequest}
    (member : request ∈ (self.step backendUrl action).outgoing) :
    request ∈ self.outgoing ∨ self.sends backendUrl action = some request := by
  rcases List.mem_append.mp member with sentNow | kept
  · exact Or.inr (Option.mem_toList.mp sentNow)
  · exact Or.inl (List.mem_of_mem_filter kept)

/-- Requests are numbered as they are sent. -/
theorem id_of_sends {action : TabAction} {request : SentRequest}
    (sent : self.sends backendUrl action = some request) :
    request.id = self.sent ∧ (self.step backendUrl action).sent = self.sent + 1 := by
  refine ⟨?_, by simp [step, sent]⟩
  cases action with
  | loadCurrentUser =>
      simp only [sends] at sent
      split at sent
      · obtain rfl := Option.some.inj sent
        rfl
      · cases sent
  | send url =>
      obtain rfl := Option.some.inj sent
      rfl
  | loginSucceeds accessToken => cases sent
  | loginFails => cases sent
  | logout => cases sent
  | deliver id answer => cases sent

theorem sent_le_step (action : TabAction) :
    self.sent ≤ (self.step backendUrl action).sent := Nat.le_add_right _ _

/-- A header carries the token that is stored when the request is sent. -/
theorem bearer_of_sends {action : TabAction} {request : SentRequest} {header : String}
    (sent : self.sends backendUrl action = some request)
    (carries : request.authorization = some header) :
    ∃ token, self.authService.tokenStorage = some token ∧ header = "Bearer " ++ token := by
  have attached : ∀ url, self.authService.authorizationFor url = some header →
      ∃ token, self.authService.tokenStorage = some token ∧ header = "Bearer " ++ token := by
    intro url attaches
    unfold AuthService.authorizationFor AuthService.getAuthorizationHeader at attaches
    cases stored : self.authService.tokenStorage with
    | none => simp [stored] at attaches
    | some token =>
        refine ⟨token, rfl, ?_⟩
        by_cases isPublic : isPublicAuthPath url = true
        · simp [isPublic] at attaches
        · by_cases empty : token = ""
          · simp [stored, empty] at attaches
          · simpa [isPublic, stored, empty, eq_comm] using attaches
  cases action with
  | loadCurrentUser =>
      simp only [sends] at sent
      split at sent
      · obtain rfl := Option.some.inj sent
        exact attached _ carries
      · cases sent
  | send url =>
      obtain rfl := Option.some.inj sent
      exact attached _ carries
  | loginSucceeds accessToken => cases sent
  | loginFails => cases sent
  | logout => cases sent
  | deliver id answer => cases sent

/-- In every run a 401 for an intercepted request logs out, whichever token the
request was sent with and whichever is stored when it arrives; no other answer
touches the token, nor the cached user unless `UserInfoService` asked for it. The
token a login stores is the stored one until the next login, logout or such a 401. -/
theorem session_follows_events {token : Option String} {past : Past} {tab : Tab}
    (run : Machine.Run (machine backendUrl) Machine.unrestricted (opened token) past tab)
    {newer older : Past} {answered : Answered} (split : past = newer ++ answered :: older) :
    (∀ request, answered.before.Unauthorized answered.input request →
      (∃ sending ∈ older, sending.before.sends backendUrl sending.input = some request ∧
        request.authorization = sending.before.authService.getAuthorizationHeader) ∧
      LoggedOut ((machine backendUrl).next answered.before answered.input).authService ∧
      (Quiet newer → tab.authService.tokenStorage = none)) ∧
    (∀ id answer, answered.input = .deliver id answer →
      (∀ request, ¬answered.before.Unauthorized answered.input request) →
        ((machine backendUrl).next answered.before answered.input).authService.tokenStorage =
          answered.before.authService.tokenStorage ∧
        ((∀ request, answered.before.waiting id = some request → request.userInfo = none) →
          ((machine backendUrl).next answered.before answered.input).authService =
            answered.before.authService)) ∧
    ∀ accessToken, answered.input = .loginSucceeds accessToken → Quiet newer →
      tab.authService.tokenStorage = some accessToken := by
  have tokenStays : ∀ stored, Quiet newer →
      ((machine backendUrl).next answered.before answered.input).authService.tokenStorage =
        stored → tab.authService.tokenStorage = stored := by
    intro stored quiet established
    apply run.kept_since (fun tab => tab.authService.tokenStorage = stored) split established
    intro later member before
    exact (token_next (quiet later member)).trans before
  refine ⟨?_, ?_, ?_⟩
  · intro request unauthorized
    rcases run.of_split split with ⟨earlier, -, -⟩
    have loggedOut : LoggedOut
        ((machine backendUrl).next answered.before answered.input).authService :=
      loggedOut_next unauthorized
    refine ⟨?_, loggedOut, fun quiet => tokenStays none quiet loggedOut.token⟩
    obtain ⟨id, error, -, -, inFlight, intercepted⟩ := unauthorized
    obtain ⟨sending, member, sent⟩ :=
      outgoing_of_run earlier request (List.mem_of_find?_eq_some inFlight)
    exact ⟨sending, member, sent, authorization_of_sends sent intercepted⟩
  · intro id answer input ignored
    rw [input] at ignored ⊢
    exact ⟨token_next (deliver_quiet ignored), deliver_ignored ignored⟩
  · intro accessToken input quiet
    apply tokenStays (some accessToken) quiet
    rw [input]
    rfl

private def newerSession : List TabAction :=
  [.loginSucceeds "first", .send "/api/v1/users", .loginSucceeds "second",
    .deliver 0 (.error ⟨401, .null⟩)]

private theorem newerSession_run :
    Machine.Run (machine "") Machine.unrestricted (opened none)
      ((machine "").execute [] (opened none) newerSession).1
      ((machine "").execute [] (opened none) newerSession).2 :=
  (machine "").run_unrestricted (opened none) newerSession

private def usersRequest : SentRequest := ⟨0, "/api/v1/users", some "Bearer first", none⟩

theorem session_follows_events_newerSession :
    LoggedOut ((machine "").execute [] (opened none) newerSession).2.authService := by
  have events := session_follows_events newerSession_run (List.nil_append _).symm
  have unauthorized := events.1 usersRequest ⟨0, ⟨401, .null⟩, rfl, rfl, by decide, by decide⟩
  exact unauthorized.2.1

/-- The 401 for a request of the first session ends the second. -/
theorem sparesNewerSessions_fails_on_late_401 :
    ∃ past tab, Machine.Run (machine "") Machine.unrestricted (opened none) past tab ∧
      tab.authService.tokenStorage = none ∧ ¬SparesNewerSessions "" past := by
  refine ⟨_, _, newerSession_run, by decide, ?_⟩
  intro spares
  have untouched := spares _ List.mem_cons_self usersRequest
    ⟨0, ⟨401, .null⟩, rfl, rfl, by decide, by decide⟩ "first" (by decide) (by decide)
  exact absurd untouched (by decide)

end Tab

end DemoBase.Frontend
