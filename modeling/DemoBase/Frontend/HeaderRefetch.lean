import DemoBase.Frontend.TokenlessSession

/-!
Owns the effect by which the `Header` asks for the user it shows. The effect is
keyed on the token and the cache is emptied by the login call, so the two can get
out of step: an effect that does not run again never asks again.
-/

set_option autoImplicit false

namespace DemoBase.Frontend

open DemoBase.Foundations Tab

/-- The computed signal `isAuthenticated`: the empty string is falsy. -/
def AuthService.isAuthenticated (self : AuthService) : Bool :=
  match self.tokenStorage with
  | none => false
  | some token => token != ""

/-- The page with the `Header`, which is mounted while `isAuthenticated`.
`effectPending` says that its effect will run at the next flush. -/
structure Page where
  tab : Tab
  effectPending : Bool

inductive PageAction where
  | loginSucceeds (accessToken : String)
  | logout
  | deliver (id : Nat) (answer : Answer)
  | flush

namespace Page

/-- Mounting the `Header` schedules its effect. -/
def opened (token : Option String) : Page :=
  ⟨.opened token, (Tab.opened token).authService.isAuthenticated⟩

variable (backendUrl : String) (self : Page)

def browser : Browser := self.tab.browser

def token : Option String := self.tab.authService.tokenStorage

def isAuthenticated : Bool := self.tab.authService.isAuthenticated

/-- The page after the services changed: an effect runs again when the token it
read was set to another value, and an unmounted `Header` takes its effect along. -/
def changed (tab : Tab) : Page where
  tab := tab
  effectPending := tab.authService.isAuthenticated &&
    (decide (self.token ≠ tab.authService.tokenStorage) || self.effectPending)

/-- The body of the effect. -/
def runEffect : Tab :=
  if self.isAuthenticated then self.tab.step backendUrl .loadCurrentUser else self.tab

def step : PageAction → Page
  | .loginSucceeds accessToken =>
      self.changed (self.tab.step backendUrl (.loginSucceeds accessToken))
  | .logout => self.changed (self.tab.step backendUrl .logout)
  | .deliver id answer => self.changed (self.tab.step backendUrl (.deliver id answer))
  | .flush => if self.effectPending then ⟨self.runEffect backendUrl, false⟩ else self

def machine : Machine Page PageAction Unit :=
  ⟨fun page action => (page.step backendUrl action, ())⟩

abbrev Answered := Machine.Entry Page PageAction Unit

abbrev Past := Machine.History Page PageAction Unit

/-- The `/users/me` request of this number failed. -/
def Failed (answered : Answered) (number : Nat) : Prop :=
  ∃ id error request, answered.input = .deliver id (.error error) ∧
    answered.before.tab.waiting id = some request ∧ request.userInfo = some number

/-- `UserInfoService` holds a request issued since the last `clearUser`. -/
def HoldsRequest : Prop :=
  ∃ number, self.browser.userInfo.request = some number ∧ self.browser.clearedAt ≤ number

/-- The last request issued since the last `clearUser` failed. -/
def LastFailed (past : Past) : Prop :=
  ∃ answered ∈ past, ∃ number, Failed answered number ∧ number + 1 = self.browser.issued ∧
    self.browser.clearedAt ≤ number

/-- With no effect pending, a mounted `Header` has a user to show, to wait for, or
none because the request for it failed. -/
def Served (past : Past) (page : Page) : Prop :=
  page.effectPending = false → page.token ≠ none → page.isAuthenticated = true →
    page.HoldsRequest ∨ page.LastFailed past

/-- A login brings another token than the stored one, or comes while the effect is
pending; and no error for a request from before the last `clearUser`, unless it
logs out, finds a newer request cached. -/
def KeepsServing (page : Page) (action : PageAction) : Prop :=
  match action with
  | .loginSucceeds accessToken =>
      accessToken = "" ∨ page.token ≠ some accessToken ∨ page.effectPending = true
  | .deliver id (.error error) =>
      ∀ request number, page.tab.waiting id = some request → request.userInfo = some number →
        number < page.browser.clearedAt → logsOut request.url (.error error) = false →
        page.browser.userInfo.request = none
  | _ => True

/-- What connects the effect, the cached request and the requests on their way. -/
structure Tracked (past : Past) (page : Page) : Prop where
  pending : page.effectPending = true → page.isAuthenticated = true ∧
    page.browser.issued = page.browser.clearedAt ∧ page.browser.userInfo.request = none
  cached : ∀ number, page.browser.userInfo.request = some number →
    page.isAuthenticated = true ∧ page.effectPending = false ∧
      number + 1 = page.browser.issued ∧ page.browser.clearedAt ≤ number ∧
      ∀ answered ∈ past, ¬ Failed answered number
  recent : page.browser.clearedAt ≤ page.browser.issued ∧
    page.browser.issued ≤ page.browser.clearedAt + 1
  waiting : ∀ request ∈ page.tab.outgoing, ∀ number, request.userInfo = some number →
    number < page.browser.issued ∧ number ∈ page.browser.pending
  distinct : ∀ left ∈ page.tab.outgoing, ∀ right ∈ page.tab.outgoing, ∀ number,
    left.userInfo = some number → right.userInfo = some number → left = right
  failed : ∀ answered ∈ past, ∀ number, Failed answered number → number < page.browser.issued

/-- Every request still on its way was so before and is still waited for. -/
def Carries (before after : Page) : Prop :=
  ∀ request ∈ after.tab.outgoing, ∀ number, request.userInfo = some number →
    request ∈ before.tab.outgoing ∧
      (number ∈ before.browser.pending → number ∈ after.browser.pending)

/-- The step leaves alone what the `Header` depends on. -/
structure Undisturbed (before after : Page) : Prop where
  token : after.token = before.token
  effectPending : after.effectPending = before.effectPending
  request : after.browser.userInfo.request = before.browser.userInfo.request
  issued : after.browser.issued = before.browser.issued
  clearedAt : after.browser.clearedAt = before.browser.clearedAt

/-- The step called `clearUser`. -/
structure Cleared (before after : Page) : Prop where
  request : after.browser.userInfo.request = none
  issued : after.browser.issued = before.browser.issued
  clearedAt : after.browser.clearedAt = before.browser.issued
  mounted : after.effectPending = true → after.isAuthenticated = true

/-- The step issued a request for the user. -/
structure Asked (before after : Page) : Prop where
  effectPending : after.effectPending = false
  token : after.token = before.token
  issued : after.browser.issued = before.browser.issued + 1
  clearedAt : after.browser.clearedAt = before.browser.clearedAt
  cached : after.browser.userInfo.request = some before.browser.issued
  pending : after.browser.pending = before.browser.issued :: before.browser.pending
  outgoing : ∃ request, request.userInfo = some before.browser.issued ∧
    after.tab.outgoing = request :: before.tab.outgoing

section Steps

variable {past : Past} {before after : Page} {answered : Answered}

theorem isAuthenticated_of_token (same : after.token = before.token) :
    after.isAuthenticated = before.isAuthenticated := by
  have tokens : after.tab.authService.tokenStorage = before.tab.authService.tokenStorage := same
  simp only [isAuthenticated, AuthService.isAuthenticated, tokens]

theorem LastFailed.mono (failed : before.LastFailed past)
    (issued : after.browser.issued = before.browser.issued)
    (clearedAt : after.browser.clearedAt = before.browser.clearedAt) :
    after.LastFailed (answered :: past) := by
  obtain ⟨failing, member, number, isFailed, last, sinceClear⟩ := failed
  exact ⟨failing, List.mem_cons_of_mem _ member, number, isFailed, issued ▸ last,
    clearedAt ▸ sinceClear⟩

namespace Tracked

theorem carried (tracked : Tracked past before) (carries : Carries before after)
    (grows : before.browser.issued ≤ after.browser.issued) :
    (∀ request ∈ after.tab.outgoing, ∀ number, request.userInfo = some number →
        number < after.browser.issued ∧ number ∈ after.browser.pending) ∧
      ∀ left ∈ after.tab.outgoing, ∀ right ∈ after.tab.outgoing, ∀ number,
        left.userInfo = some number → right.userInfo = some number → left = right := by
  constructor
  · intro request member number isNumber
    rcases carries request member number isNumber with ⟨older, kept⟩
    rcases tracked.waiting request older number isNumber with ⟨below, inFlight⟩
    exact ⟨by omega, kept inFlight⟩
  · intro left leftMember right rightMember number leftNumber rightNumber
    exact tracked.distinct left (carries left leftMember number leftNumber).1 right
      (carries right rightMember number rightNumber).1 number leftNumber rightNumber

/-- Also the answer just delivered is for a request that was issued. -/
theorem failed_cons (tracked : Tracked past before) (now : answered.before = before) :
    ∀ failing ∈ answered :: past, ∀ number, Failed failing number →
      number < before.browser.issued := by
  intro failing member number isFailed
  rcases List.mem_cons.mp member with rfl | older
  · obtain ⟨id, error, request, -, found, isNumber⟩ := isFailed
    rw [now] at found
    exact (tracked.waiting request (List.mem_of_find?_eq_some found) number isNumber).1
  · exact tracked.failed failing older number isFailed

theorem undisturbed (tracked : Tracked past before) (now : answered.before = before)
    (same : Undisturbed before after) (carries : Carries before after)
    (fine : ∀ number, ¬ Failed answered number) : Tracked (answered :: past) after := by
  have authenticated := isAuthenticated_of_token same.token
  rcases tracked.carried carries same.issued.ge with ⟨waiting, distinct⟩
  refine ⟨?_, ?_, ?_, waiting, distinct, ?_⟩
  · rw [same.effectPending, authenticated, same.issued, same.clearedAt, same.request]
    exact tracked.pending
  · rw [same.effectPending, authenticated, same.issued, same.clearedAt, same.request]
    intro number cached
    rcases tracked.cached number cached with ⟨mounted, ran, last, sinceClear, unfailed⟩
    refine ⟨mounted, ran, last, sinceClear, ?_⟩
    exact List.forall_mem_cons.mpr ⟨fine number, unfailed⟩
  · rw [same.issued, same.clearedAt]
    exact tracked.recent
  · rw [same.issued]
    exact tracked.failed_cons now

theorem cleared (tracked : Tracked past before) (now : answered.before = before)
    (clears : Cleared before after) (carries : Carries before after) :
    Tracked (answered :: past) after := by
  rcases tracked.carried carries clears.issued.ge with ⟨waiting, distinct⟩
  refine ⟨?_, ?_, ?_, waiting, distinct, ?_⟩
  · intro pending
    exact ⟨clears.mounted pending, clears.issued.trans clears.clearedAt.symm, clears.request⟩
  · intro number cached
    rw [clears.request] at cached
    cases cached
  · have issued := clears.issued
    have clearedAt := clears.clearedAt
    omega
  · rw [clears.issued]
    exact tracked.failed_cons now

/-- Forgetting the cached request disturbs nothing else. -/
theorem forgotten (tracked : Tracked past before) (now : answered.before = before)
    (token : after.token = before.token) (pending : after.effectPending = before.effectPending)
    (issued : after.browser.issued = before.browser.issued)
    (clearedAt : after.browser.clearedAt = before.browser.clearedAt)
    (forgets : after.browser.userInfo.request = none) (carries : Carries before after) :
    Tracked (answered :: past) after := by
  rcases tracked.carried carries issued.ge with ⟨waiting, distinct⟩
  refine ⟨?_, ?_, ?_, waiting, distinct, ?_⟩
  · intro scheduled
    rw [pending] at scheduled
    rcases tracked.pending scheduled with ⟨mounted, fresh, -⟩
    rw [isAuthenticated_of_token token, issued, clearedAt]
    exact ⟨mounted, fresh, forgets⟩
  · intro number cached
    rw [forgets] at cached
    cases cached
  · rw [issued, clearedAt]
    exact tracked.recent
  · rw [issued]
    exact tracked.failed_cons now

theorem asked (tracked : Tracked past before) (now : answered.before = before)
    (scheduled : before.effectPending = true) (asks : Asked before after)
    (fine : ∀ number, ¬ Failed answered number) : Tracked (answered :: past) after := by
  rcases tracked.pending scheduled with ⟨mounted, fresh, -⟩
  obtain ⟨request, isNewest, outgoing⟩ := asks.outgoing
  have older : ∀ other ∈ before.tab.outgoing, other.userInfo ≠ some before.browser.issued := by
    intro other member isNumber
    have below := (tracked.waiting other member _ isNumber).1
    omega
  refine ⟨?_, ?_, ?_, ?_, ?_, ?_⟩
  · intro impossible
    rw [asks.effectPending] at impossible
    cases impossible
  · intro number cached
    rw [asks.cached] at cached
    obtain rfl := Option.some.inj cached
    rw [isAuthenticated_of_token asks.token, asks.issued, asks.clearedAt]
    refine ⟨mounted, asks.effectPending, rfl, fresh.ge, ?_⟩
    intro failing member isFailed
    rcases List.mem_cons.mp member with rfl | before
    · exact fine _ isFailed
    · have below := tracked.failed failing before _ isFailed
      omega
  · rw [asks.issued, asks.clearedAt]
    omega
  · intro other member number isNumber
    rw [outgoing] at member
    rw [asks.issued, asks.pending]
    rcases List.mem_cons.mp member with rfl | before
    · rw [isNewest] at isNumber
      obtain rfl := Option.some.inj isNumber
      exact ⟨by omega, List.mem_cons_self⟩
    · rcases tracked.waiting other before number isNumber with ⟨below, inFlight⟩
      exact ⟨by omega, List.mem_cons_of_mem _ inFlight⟩
  · intro left leftMember right rightMember number leftNumber rightNumber
    rw [outgoing] at leftMember rightMember
    rcases List.mem_cons.mp leftMember with rfl | leftOlder
    · rcases List.mem_cons.mp rightMember with rfl | rightOlder
      · rfl
      · exact absurd (rightNumber.trans (leftNumber.symm.trans isNewest)) (older right rightOlder)
    · rcases List.mem_cons.mp rightMember with rfl | rightOlder
      · exact absurd (leftNumber.trans (rightNumber.symm.trans isNewest)) (older left leftOlder)
      · exact tracked.distinct left leftOlder right rightOlder number leftNumber rightNumber
  · intro failing member number isFailed
    have below := tracked.failed_cons now failing member number isFailed
    rw [asks.issued]
    omega

end Tracked

theorem served_undisturbed (same : Undisturbed before after) (served : Served past before) :
    Served (answered :: past) after := by
  intro idle hasToken mounted
  rw [same.effectPending] at idle
  rw [same.token] at hasToken
  rw [isAuthenticated_of_token same.token] at mounted
  rcases served idle hasToken mounted with ⟨number, cached, sinceClear⟩ | failed
  · left
    exact ⟨number, same.request ▸ cached, same.clearedAt ▸ sinceClear⟩
  · right
    exact failed.mono same.issued same.clearedAt

theorem token_ne_none_of_isAuthenticated (mounted : after.isAuthenticated = true) :
    after.token ≠ none := by
  intro absent
  have none : after.tab.authService.tokenStorage = none := absent
  simp [isAuthenticated, AuthService.isAuthenticated, none] at mounted

/-- After `clearUser` nothing was asked for yet, so only a pending effect helps. -/
theorem served_cleared (clears : Cleared before after) :
    Served past after ↔ ¬ (after.effectPending = false ∧ after.isAuthenticated = true) := by
  constructor
  · intro served stuck
    rcases served stuck.1 (token_ne_none_of_isAuthenticated stuck.2) stuck.2 with
      ⟨number, cached, -⟩ | ⟨failing, -, number, -, last, sinceClear⟩
    · rw [clears.request] at cached
      cases cached
    · have issued := clears.issued
      have clearedAt := clears.clearedAt
      omega
  · intro helped idle _ mounted
    exact absurd ⟨idle, mounted⟩ helped

/-- Once the cached request is forgotten without having failed, nothing serves the
`Header`. -/
theorem not_served_of_forgets (tracked : Tracked past before) {newest : Nat}
    (cached : before.browser.userInfo.request = some newest) (token : after.token = before.token)
    (pending : after.effectPending = before.effectPending)
    (issued : after.browser.issued = before.browser.issued)
    (forgets : after.browser.userInfo.request = none) (fine : ¬ Failed answered newest) :
    ¬ Served (answered :: past) after := by
  rcases tracked.cached newest cached with ⟨mounted, idle, last, -, unfailed⟩
  intro served
  have mountedAfter := (isAuthenticated_of_token token).trans mounted
  have hasToken := token_ne_none_of_isAuthenticated mountedAfter
  rcases served (pending.trans idle) hasToken mountedAfter with
    ⟨held, isHeld, -⟩ | ⟨failed, member, other, isFailed, isLast, -⟩
  · rw [forgets] at isHeld
    cases isHeld
  · obtain rfl : other = newest := by omega
    rcases List.mem_cons.mp member with rfl | older
    · exact fine isFailed
    · exact unfailed failed older isFailed

end Steps

/-! ### The actions -/

section Actions

variable {past : Past} {page : Page}

theorem carries_of_filter {before : Page} {tab : Tab} {keep : SentRequest → Bool} {pending : Bool}
    (outgoing : tab.outgoing = before.tab.outgoing.filter keep)
    (samePending : tab.browser.pending = before.browser.pending) :
    Carries before ⟨tab, pending⟩ := by
  intro request member number _
  rw [outgoing] at member
  refine ⟨List.mem_of_mem_filter member, fun inFlight => ?_⟩
  show number ∈ tab.browser.pending
  rwa [samePending]

/-- A new token schedules the effect, the stored one does not. -/
theorem effectPending_changed_of_same_token (tracked : Tracked past page) {tab : Tab}
    (same : tab.authService.tokenStorage = page.token) :
    (page.changed tab).effectPending = page.effectPending := by
  have sameToken : (page.changed tab).token = page.token := same
  have authenticated : tab.authService.isAuthenticated = page.isAuthenticated :=
    isAuthenticated_of_token sameToken
  unfold changed
  rw [authenticated, same]
  cases pending : page.effectPending with
  | false => simp
  | true => simp [(tracked.pending pending).1]

theorem mounted_of_changed {tab : Tab} (pending : (page.changed tab).effectPending = true) :
    (page.changed tab).isAuthenticated = true :=
  (Bool.and_eq_true_iff.mp pending).1

theorem cleared_loginSucceeds (accessToken : String) :
    Cleared page (page.step backendUrl (.loginSucceeds accessToken)) :=
  ⟨rfl, rfl, rfl, mounted_of_changed⟩

theorem cleared_logout : Cleared page (page.step backendUrl .logout) :=
  ⟨rfl, rfl, rfl, mounted_of_changed⟩

theorem carries_loginSucceeds (accessToken : String) :
    Carries page (page.step backendUrl (.loginSucceeds accessToken)) :=
  carries_of_filter rfl rfl

theorem carries_logout : Carries page (page.step backendUrl .logout) :=
  carries_of_filter rfl rfl

/-- A login leaves the `Header` without a user exactly when its token is the stored
one and no effect is pending. -/
theorem stuck_loginSucceeds (accessToken : String) :
    ¬ ((page.step backendUrl (.loginSucceeds accessToken)).effectPending = false ∧
        (page.step backendUrl (.loginSucceeds accessToken)).isAuthenticated = true) ↔
      KeepsServing page (.loginSucceeds accessToken) := by
  have authenticated : (page.step backendUrl (.loginSucceeds accessToken)).isAuthenticated =
      (accessToken != "") := rfl
  have scheduled : (page.step backendUrl (.loginSucceeds accessToken)).effectPending =
      ((accessToken != "") && (decide (page.token ≠ some accessToken) || page.effectPending)) :=
    rfl
  rw [authenticated, scheduled]
  unfold KeepsServing
  by_cases empty : accessToken = ""
  · simp [empty]
  · have truthy : (accessToken != "") = true := bne_iff_ne.mpr empty
    rw [truthy]
    cases page.effectPending <;> simp [empty]

variable {id : Nat} {request : SentRequest}

theorem carries_deliver (tracked : Tracked past page) (found : page.tab.waiting id = some request)
    (answer : Answer) : Carries page (page.step backendUrl (.deliver id answer)) := by
  intro other member number isNumber
  have outgoing := Tab.step_deliver_outgoing backendUrl found answer
  have browser := Tab.step_deliver_browser backendUrl found answer
  change other ∈ (page.tab.step backendUrl (.deliver id answer)).outgoing at member
  rw [outgoing] at member
  have older := List.mem_of_mem_filter member
  refine ⟨older, fun inFlight => ?_⟩
  show number ∈ (page.tab.step backendUrl (.deliver id answer)).browser.pending
  rw [browser]
  cases answered : request.userInfo with
  | none =>
      simp only [Tab.intercepted_pending]
      exact inFlight
  | some delivered =>
      simp only [Browser.pending_deliver, Tab.intercepted_pending]
      have distinct : number ≠ delivered := by
        rintro rfl
        have same := tracked.distinct request (List.mem_of_find?_eq_some found) other older number
          answered isNumber
        simp [same] at member
      exact (List.mem_erase_of_ne distinct).mpr inFlight

theorem inFlight_of_waiting (tracked : Tracked past page)
    (found : page.tab.waiting id = some request) {number : Nat}
    (isNumber : request.userInfo = some number) : number ∈ page.browser.pending :=
  (tracked.waiting request (List.mem_of_find?_eq_some found) number isNumber).2

/-- The browser after a delivered answer: the interceptor sees it first, then
`UserInfoService` if it waits for it. -/
theorem browser_deliver (found : page.tab.waiting id = some request) (answer : Answer) :
    (request.userInfo = none ∧ (page.step backendUrl (.deliver id answer)).browser =
        Tab.intercepted page.browser request.url answer) ∨
      ∃ number, request.userInfo = some number ∧
        (page.step backendUrl (.deliver id answer)).browser =
          (Tab.intercepted page.browser request.url answer).step (.deliver number answer) := by
  have browser : (page.step backendUrl (.deliver id answer)).browser = _ :=
    Tab.step_deliver_browser backendUrl found answer
  cases isNumber : request.userInfo with
  | none =>
      rw [isNumber] at browser
      exact Or.inl ⟨rfl, browser⟩
  | some number =>
      rw [isNumber] at browser
      exact Or.inr ⟨number, rfl, browser⟩

/-- An answer that logs out clears the user, also when `UserInfoService` sees it
afterwards. -/
theorem cleared_deliver (tracked : Tracked past page)
    (found : page.tab.waiting id = some request) {answer : Answer}
    (logs : logsOut request.url answer = true) :
    Cleared page (page.step backendUrl (.deliver id answer)) ∧
      (page.step backendUrl (.deliver id answer)).token = none := by
  have loggedOut : Tab.intercepted page.browser request.url answer = page.browser.step .logout := by
    rw [Tab.intercepted, if_pos logs]
  have effects : (page.step backendUrl (.deliver id answer)).browser.userInfo.request = none ∧
      (page.step backendUrl (.deliver id answer)).browser.issued = page.browser.issued ∧
      (page.step backendUrl (.deliver id answer)).browser.clearedAt = page.browser.issued ∧
      (page.step backendUrl (.deliver id answer)).browser.authService.tokenStorage = none := by
    rcases browser_deliver backendUrl found answer with ⟨-, same⟩ | ⟨number, isNumber, same⟩
    · rw [same, loggedOut]
      exact ⟨rfl, rfl, rfl, rfl⟩
    · rw [same, loggedOut]
      rcases (page.browser.step .logout).deliver_keeps number answer with
        ⟨token, issued, clearedAt⟩
      refine ⟨?_, issued, clearedAt, token⟩
      have inFlight : number ∈ (page.browser.step .logout).pending :=
        inFlight_of_waiting tracked found isNumber
      rcases logsOut_iff.mp logs with ⟨error, rfl, -, -⟩
      rw [Browser.userInfo_deliver inFlight]
      rfl
  rcases effects with ⟨cached, issued, clearedAt, token⟩
  exact ⟨⟨cached, issued, clearedAt, mounted_of_changed⟩, token⟩

/-- An answer that does not log out leaves the token, the counts and the effect. -/
theorem keeps_deliver (tracked : Tracked past page)
    (found : page.tab.waiting id = some request) {answer : Answer}
    (passes : ¬ logsOut request.url answer = true) :
    (page.step backendUrl (.deliver id answer)).token = page.token ∧
      (page.step backendUrl (.deliver id answer)).effectPending = page.effectPending ∧
      (page.step backendUrl (.deliver id answer)).browser.issued = page.browser.issued ∧
      (page.step backendUrl (.deliver id answer)).browser.clearedAt = page.browser.clearedAt := by
  have passed : Tab.intercepted page.browser request.url answer = page.browser := by
    rw [Tab.intercepted, if_neg passes]
  have effects : (page.step backendUrl (.deliver id answer)).browser.authService.tokenStorage =
        page.token ∧
      (page.step backendUrl (.deliver id answer)).browser.issued = page.browser.issued ∧
      (page.step backendUrl (.deliver id answer)).browser.clearedAt = page.browser.clearedAt := by
    rcases browser_deliver backendUrl found answer with ⟨-, same⟩ | ⟨number, -, same⟩
    · rw [same, passed]
      exact ⟨rfl, rfl, rfl⟩
    · rw [same, passed]
      exact page.browser.deliver_keeps number answer
  rcases effects with ⟨token, issued, clearedAt⟩
  exact ⟨token, effectPending_changed_of_same_token tracked token, issued, clearedAt⟩

/-- A cached request is forgotten only for an error `UserInfoService` waits for. -/
theorem request_deliver (tracked : Tracked past page)
    (found : page.tab.waiting id = some request) {answer : Answer}
    (passes : ¬ logsOut request.url answer = true) :
    ((∀ error, answer ≠ .error error) ∨ request.userInfo = none →
        (page.step backendUrl (.deliver id answer)).browser.userInfo.request =
          page.browser.userInfo.request) ∧
      ((∃ error, answer = .error error) ∧ request.userInfo ≠ none →
        (page.step backendUrl (.deliver id answer)).browser.userInfo.request = none) := by
  have passed : Tab.intercepted page.browser request.url answer = page.browser := by
    rw [Tab.intercepted, if_neg passes]
  rcases browser_deliver backendUrl found answer with
    ⟨unawaited, same⟩ | ⟨number, isNumber, same⟩
  · rw [same, passed]
    exact ⟨fun _ => rfl, fun failed => absurd unawaited failed.2⟩
  · have inFlight : number ∈ page.browser.pending := inFlight_of_waiting tracked found isNumber
    rw [same, passed, Browser.userInfo_deliver inFlight]
    constructor
    · intro kept
      cases answer with
      | ok user => rfl
      | error error =>
          rcases kept with noError | unawaited
          · exact absurd rfl (noError error)
          · cases isNumber.symm.trans unawaited
    · rintro ⟨⟨error, rfl⟩, -⟩
      rfl

theorem step_flush_idle (idle : page.effectPending = false) :
    page.step backendUrl .flush = page := by
  simp [step, idle]

/-- The effect asks for the user, since nothing was asked for yet. -/
theorem asked_flush (tracked : Tracked past page) (pending : page.effectPending = true) :
    Asked page (page.step backendUrl .flush) := by
  rcases tracked.pending pending with ⟨mounted, -, uncached⟩
  have flushed : page.step backendUrl .flush =
      ⟨page.tab.step backendUrl .loadCurrentUser, false⟩ := by
    simp only [step, pending, if_true, runEffect, mounted]
  have browser : (page.tab.step backendUrl .loadCurrentUser).browser = _ :=
    Browser.step_loadCurrentUser_uncached uncached
  have outgoing := Tab.outgoing_loadCurrentUser_uncached backendUrl uncached
  have fields : ∀ after, (page.tab.step backendUrl .loadCurrentUser).browser = after →
      after.authService.tokenStorage = page.token ∧ after.clearedAt = page.browser.clearedAt := by
    rintro after rfl
    rw [browser]
    exact ⟨rfl, rfl⟩
  rcases fields _ rfl with ⟨token, clearedAt⟩
  rw [flushed]
  exact ⟨rfl, token, congrArg Browser.issued browser, clearedAt,
    congrArg (fun browser => browser.userInfo.request) browser, congrArg Browser.pending browser,
    _, rfl, outgoing⟩

theorem not_failed_of_no_error {answered : Answered}
    (noError : ∀ id error, answered.input ≠ .deliver id (.error error)) (number : Nat) :
    ¬ Failed answered number := by
  intro isFailed
  obtain ⟨id, error, request, input, -, -⟩ := isFailed
  exact noError id error input

theorem undisturbed_refl (page : Page) : Undisturbed page page := ⟨rfl, rfl, rfl, rfl, rfl⟩

theorem carries_refl (page : Page) : Carries page page :=
  fun _ member _ _ => ⟨member, id⟩

/-- An answer nothing waits for is dropped. -/
theorem step_deliver_unasked (tracked : Tracked past page) (unasked : page.tab.waiting id = none)
    (answer : Answer) : page.step backendUrl (.deliver id answer) = page := by
  have same : page.step backendUrl (.deliver id answer) = page.changed page.tab :=
    congrArg page.changed (Tab.step_deliver_unasked backendUrl unasked answer)
  have scheduled : (page.changed page.tab).effectPending = page.effectPending :=
    effectPending_changed_of_same_token tracked rfl
  rw [same]
  obtain ⟨tab, effectPending⟩ := page
  exact congrArg (Page.mk tab) scheduled

/-- Delivering an answer: nobody waits for it, it logs out, it leaves the cached
request alone, or it is an error that makes `UserInfoService` forget it. -/
theorem deliver_cases (tracked : Tracked past page) (id : Nat) (answer : Answer) :
    (page.tab.waiting id = none ∧ page.step backendUrl (.deliver id answer) = page) ∨
      ∃ request, page.tab.waiting id = some request ∧
        ((logsOut request.url answer = true ∧
            Cleared page (page.step backendUrl (.deliver id answer)) ∧
            (page.step backendUrl (.deliver id answer)).token = none) ∨
          (((∀ error, answer ≠ .error error) ∨ request.userInfo = none) ∧
            Undisturbed page (page.step backendUrl (.deliver id answer))) ∨
          ∃ error number, answer = .error error ∧ request.userInfo = some number ∧
            logsOut request.url answer = false ∧
            (page.step backendUrl (.deliver id answer)).browser.userInfo.request = none) := by
  cases found : page.tab.waiting id with
  | none => exact Or.inl ⟨rfl, step_deliver_unasked backendUrl tracked found answer⟩
  | some request =>
      right
      refine ⟨request, rfl, ?_⟩
      by_cases logs : logsOut request.url answer = true
      · exact Or.inl ⟨logs, cleared_deliver backendUrl tracked found logs⟩
      · right
        rcases keeps_deliver backendUrl tracked found logs with ⟨token, pending, issued, clearedAt⟩
        rcases request_deliver backendUrl tracked found logs with ⟨kept, forgets⟩
        by_cases quiet : (∀ error, answer ≠ .error error) ∨ request.userInfo = none
        · exact Or.inl ⟨quiet, token, pending, kept quiet, issued, clearedAt⟩
        · right
          push Not at quiet
          rcases quiet with ⟨⟨error, rfl⟩, awaited⟩
          rcases Option.ne_none_iff_exists'.mp awaited with ⟨number, isNumber⟩
          exact ⟨error, number, rfl, isNumber, by simpa using logs,
            forgets ⟨⟨error, rfl⟩, awaited⟩⟩

theorem tracked_step (tracked : Tracked past page) (action : PageAction) :
    Tracked ((machine backendUrl).entry page action :: past) (page.step backendUrl action) := by
  have noError : ∀ other : PageAction, (∀ id error, other ≠ .deliver id (.error error)) →
      ∀ number, ¬ Failed ((machine backendUrl).entry page other) number :=
    fun other none => not_failed_of_no_error none
  cases action with
  | loginSucceeds accessToken =>
      exact tracked.cleared rfl (cleared_loginSucceeds backendUrl accessToken)
        (carries_loginSucceeds backendUrl accessToken)
  | logout => exact tracked.cleared rfl (cleared_logout backendUrl) (carries_logout backendUrl)
  | flush =>
      cases pending : page.effectPending with
      | false =>
          rw [step_flush_idle backendUrl pending]
          exact tracked.undisturbed rfl (undisturbed_refl page) (carries_refl page)
            (noError .flush (by simp))
      | true =>
          exact tracked.asked rfl pending (asked_flush backendUrl tracked pending)
            (noError .flush (by simp))
  | deliver id answer =>
      rcases deliver_cases backendUrl tracked id answer with ⟨unasked, same⟩ | ⟨request, found, how⟩
      · rw [same]
        refine tracked.undisturbed rfl (undisturbed_refl page) (carries_refl page) ?_
        rintro number ⟨failedId, error, request, input, found, -⟩
        cases input
        exact absurd (unasked.symm.trans found) (by simp)
      · have carries := carries_deliver backendUrl tracked found answer
        rcases how with ⟨-, clears, -⟩ | ⟨quiet, same⟩ |
          ⟨error, number, isError, -, passes, forgets⟩
        · exact tracked.cleared rfl clears carries
        · refine tracked.undisturbed rfl same carries ?_
          rintro failed ⟨failedId, error, other, input, otherFound, isNumber⟩
          cases input
          have sameRequest : request = other := Option.some.inj (found.symm.trans otherFound)
          rcases quiet with noErrors | unawaited
          · exact noErrors error rfl
          · rw [← sameRequest, unawaited] at isNumber
            cases isNumber
        · have stays : ¬ logsOut request.url answer = true := by simp [passes]
          rcases keeps_deliver backendUrl tracked found stays with
            ⟨token, pending, issued, clearedAt⟩
          exact tracked.forgotten rfl token pending issued clearedAt forgets carries

theorem keepsServing_deliver {answer : Answer}
    (keeps : ∀ error request number, answer = .error error → page.tab.waiting id = some request →
      request.userInfo = some number → number < page.browser.clearedAt →
        logsOut request.url answer = false → page.browser.userInfo.request = none) :
    KeepsServing page (.deliver id answer) := by
  cases answer with
  | ok user => trivial
  | error error =>
      intro request number found isNumber outlived passes
      exact keeps error request number rfl found isNumber outlived passes

/-- An error that makes `UserInfoService` forget its request leaves the `Header`
without a user exactly when it came for a request from before the last `clearUser`
while a newer one was cached. -/
theorem served_forgotten_iff (tracked : Tracked past page) (served : Served past page)
    (found : page.tab.waiting id = some request) {number : Nat}
    (isNumber : request.userInfo = some number) {error : HttpErrorResponse}
    (passes : logsOut request.url (.error error) = false)
    (forgets : (page.step backendUrl (.deliver id (.error error))).browser.userInfo.request =
      none) :
    Served ((machine backendUrl).entry page (.deliver id (.error error)) :: past)
        (page.step backendUrl (.deliver id (.error error))) ↔
      KeepsServing page (.deliver id (.error error)) := by
  have stays : ¬ logsOut request.url (.error error) = true := by simp [passes]
  rcases keeps_deliver backendUrl tracked found stays with ⟨token, pending, issued, clearedAt⟩
  have below := (tracked.waiting request (List.mem_of_find?_eq_some found) number isNumber).1
  have recent := tracked.recent
  have failing : Failed ((machine backendUrl).entry page (.deliver id (.error error))) number :=
    ⟨id, error, request, rfl, found, isNumber⟩
  have onlyThis : ∀ other,
      Failed ((machine backendUrl).entry page (.deliver id (.error error))) other →
        other = number := by
    rintro other ⟨otherId, otherError, otherRequest, input, otherFound, isOther⟩
    cases input
    obtain rfl := Option.some.inj (found.symm.trans otherFound)
    exact Option.some.inj (isOther.symm.trans isNumber)
  by_cases outlived : number < page.browser.clearedAt
  · cases cached : page.browser.userInfo.request with
    | none =>
        -- nothing was cached, so what served the page before still does
        refine iff_of_true ?_ fun _ _ _ _ _ _ => cached
        intro idle hasToken mounted
        rw [pending] at idle
        rw [token] at hasToken
        rw [isAuthenticated_of_token token] at mounted
        rcases served idle hasToken mounted with ⟨held, isHeld, -⟩ | failed
        · rw [cached] at isHeld
          cases isHeld
        · right
          exact failed.mono issued clearedAt
    | some newest =>
        -- the cached request is the last one issued, it did not fail and is forgotten
        have sinceClear := (tracked.cached newest cached).2.2.2.1
        refine iff_of_false ?_ ?_
        · apply not_served_of_forgets tracked cached token pending issued forgets
          intro isFailed
          have isNumber := onlyThis newest isFailed
          omega
        · intro keeps
          have forgotten := keeps request number found isNumber outlived passes
          rw [cached] at forgotten
          cases forgotten
  · refine iff_of_true ?_ ?_
    · intro _ _ _
      right
      exact ⟨_, List.mem_cons_self, number, failing, by omega, by omega⟩
    · intro otherRequest other otherFound isOther otherOutlived
      have same := onlyThis other ⟨id, error, otherRequest, rfl, otherFound, isOther⟩
      omega

/-- One step of a page whose `Header` is served leaves it served exactly when it
keeps serving it. -/
theorem served_step_iff (tracked : Tracked past page) (served : Served past page)
    (action : PageAction) :
    Served ((machine backendUrl).entry page action :: past) (page.step backendUrl action) ↔
      KeepsServing page action := by
  cases action with
  | loginSucceeds accessToken =>
      rw [served_cleared (cleared_loginSucceeds backendUrl accessToken)]
      exact stuck_loginSucceeds backendUrl accessToken
  | logout =>
      refine iff_of_true ?_ trivial
      intro _ hasToken
      exact absurd rfl hasToken
  | flush =>
      refine iff_of_true ?_ trivial
      cases pending : page.effectPending with
      | false =>
          rw [step_flush_idle backendUrl pending]
          exact served_undisturbed (undisturbed_refl page) served
      | true =>
          have asks := asked_flush backendUrl tracked pending
          intro _ _ _
          left
          refine ⟨page.browser.issued, asks.cached, ?_⟩
          rw [asks.clearedAt]
          exact tracked.recent.1
  | deliver id answer =>
      rcases deliver_cases backendUrl tracked id answer with ⟨unasked, same⟩ | ⟨request, found, how⟩
      · rw [same]
        refine iff_of_true (served_undisturbed (undisturbed_refl page) served) ?_
        apply keepsServing_deliver
        intro error request number _ found
        exact absurd (unasked.symm.trans found) (by simp)
      · have onlyRequest : ∀ other, page.tab.waiting id = some other → other = request :=
          fun other otherFound => Option.some.inj (otherFound.symm.trans found)
        rcases how with ⟨logs, -, signedOut⟩ | ⟨quiet, same⟩ |
          ⟨error, number, rfl, isNumber, passes, forgets⟩
        · refine iff_of_true ?_ ?_
          · intro _ hasToken
            exact absurd signedOut hasToken
          · apply keepsServing_deliver
            intro error other number _ otherFound _ _ passes
            rw [onlyRequest other otherFound, logs] at passes
            cases passes
        · refine iff_of_true (served_undisturbed same served) ?_
          apply keepsServing_deliver
          intro error other number isError otherFound isNumber
          rcases quiet with noErrors | unawaited
          · exact absurd isError (noErrors error)
          · rw [onlyRequest other otherFound, unawaited] at isNumber
            cases isNumber
        · exact served_forgotten_iff backendUrl tracked served found isNumber passes forgets

theorem tracked_of_run {environment : Machine.Environment Page PageAction Unit}
    {token : Option String}
    (run : Machine.Run (machine backendUrl) environment (opened token) past page) :
    Tracked past page := by
  apply run.invariant
  · refine ⟨?_, ?_, ?_, ?_, ?_, ?_⟩
    · intro mounted
      exact ⟨mounted, rfl, rfl⟩
    · intro number cached
      cases cached
    · exact ⟨le_rfl, Nat.zero_le 1⟩
    · intro request member
      cases member
    · intro left member
      cases member
    · intro answered member
      cases member
  · intro earlier before action _ _ tracked
    exact tracked_step backendUrl tracked action

/-- In every run the `Header` is served at every moment exactly when every login
and every error came when it keeps serving it. -/
theorem served_throughout_iff {token : Option String}
    (run : Machine.Run (machine backendUrl) Machine.unrestricted (opened token) past page) :
    Machine.Throughout Served past page ↔
      ∀ answered ∈ past, KeepsServing answered.before answered.input := by
  apply run.throughout_iff
  · intro idle _ mounted
    rw [show (opened token).effectPending = (opened token).isAuthenticated from rfl] at idle
    rw [idle] at mounted
    cases mounted
  · intro earlier before action reached _ served
    exact served_step_iff backendUrl (tracked_of_run backendUrl reached) served action

end Actions

private def aliceInfo : UserInfo := ⟨"8d8c45ab", "alice@example.com", true, "user"⟩

private def accountSwitch : List PageAction :=
  [.loginSucceeds "alice", .flush, .deliver 0 (.ok aliceInfo), .loginSucceeds "bob", .flush]

theorem served_throughout_accountSwitch :
    Machine.Throughout Served ((machine "").execute [] (opened none) accountSwitch).1
      ((machine "").execute [] (opened none) accountSwitch).2 := by
  apply (served_throughout_iff "" ((machine "").run_unrestricted (opened none)
    accountSwitch)).mpr
  intro answered member
  simp only [accountSwitch, Machine.execute, List.mem_cons, List.not_mem_nil, or_false] at member
  rcases member with rfl | rfl | rfl | rfl | rfl
  · trivial
  · exact Or.inr (Or.inl (by decide))
  · trivial
  · trivial
  · exact Or.inr (Or.inl (by decide))

private def secondLoginInOneSecond : List PageAction :=
  [.loginSucceeds "alice", .flush, .deliver 0 (.ok aliceInfo), .loginSucceeds "alice"]

/-- Two logins that are given one token: the second empties the cache, and no
effect runs to fill it again. -/
theorem served_fails_for_equal_token :
    ∃ past page, Machine.Run (machine "") Machine.unrestricted (opened none) past page ∧
      page.effectPending = false ∧ page.token = some "alice" ∧ page.isAuthenticated = true ∧
      ¬ Served past page := by
  have run := (machine "").run_unrestricted (opened none) secondLoginInOneSecond
  refine ⟨_, _, run, by decide, by decide, by decide, ?_⟩
  intro served
  rcases served (by decide) (by decide) (by decide) with
    ⟨number, cached, -⟩ | ⟨-, -, number, -, last, sinceClear⟩
  · revert cached
    exact fun cached => by cases cached
  · have issued : number + 1 = 1 := last
    have clearedAt : 1 ≤ number := sinceClear
    omega

end Page

end DemoBase.Frontend
