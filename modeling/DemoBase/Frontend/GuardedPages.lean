import DemoBase.Frontend.Navigation
import DemoBase.Frontend.TabRequests

/-!
Owns what holds of the page a tab shows over whole runs: who signed in for a page behind a
guard, which answer opened the user list, and that no navigation waits for an answer that
will not come.
-/

set_option autoImplicit false

namespace DemoBase.Frontend

open DemoBase.Foundations

/-! ### The requests behind a page -/

namespace Screen

variable {backendUrl : String} {self : Screen} {past : Past} {answered : Answered}

/-- A request of this number is on its way. -/
def OnItsWay (self : Screen) (number : Nat) : Prop :=
  ∃ request ∈ self.tab.outgoing, request.userInfo = some number

/-- While somebody is signed in, the requests of this number were sent with the header of
the token that is stored. -/
def Carries (backendUrl : String) (self : Screen) (number : Nat) : Prop :=
  self.isAuthenticated = true → ∀ request,
    request ∈ self.tab.outgoing ∨ (∃ user, (request, user) ∈ self.replayed) →
      request.userInfo = some number →
        request.authorization = self.tab.authService.authorizationFor (Tab.usersMeUrl backendUrl)

/-- The backend answered this request with this user. -/
def AnsweredIn (past : Past) (held : SentRequest × UserInfo) : Prop :=
  ∃ answered ∈ past, answered.input = .deliver held.1.id (.ok held.2) ∧
    answered.before.tab.waiting held.1.id = some held.1

/-- What connects the cached request, the requests on their way and those answered. -/
structure Requests (backendUrl : String) (past : Past) (screen : Screen) : Prop where
  numbered : screen.tab.Numbered
  held : ∀ held ∈ screen.replayed, AnsweredIn past held ∧
    ∃ number, held.1.userInfo = some number ∧ number < screen.tab.browser.issued
  cached : ∀ number, screen.tab.browser.userInfo.request = some number →
    screen.Carries backendUrl number ∧ (screen.OnItsWay number ∨ screen.replay (some number) ≠ none)

theorem AnsweredIn.cons {held : SentRequest × UserInfo} (before : AnsweredIn past held) :
    AnsweredIn (answered :: past) held := by
  obtain ⟨delivery, member, input, waits⟩ := before
  exact ⟨delivery, List.mem_cons_of_mem _ member, input, waits⟩

theorem Requests.cons (requests : Requests backendUrl past self) :
    Requests backendUrl (answered :: past) self :=
  ⟨requests.numbered, fun held member => ⟨(requests.held held member).1.cons,
    (requests.held held member).2⟩, requests.cached⟩

theorem replay_ne_none_iff {number : Nat} : self.replay (some number) ≠ none ↔
    ∃ held ∈ self.replayed, held.1.userInfo = some number := by
  simp [replay, List.find?_eq_none]

theorem mem_of_replay {number : Nat} {user : UserInfo}
    (held : self.replay (some number) = some user) :
    ∃ request, (request, user) ∈ self.replayed ∧ request.userInfo = some number := by
  unfold replay at held
  obtain ⟨⟨request, same⟩, found, rfl⟩ := Option.map_eq_some_iff.mp held
  exact ⟨request, List.mem_of_find?_eq_some found, by simpa using List.find?_some found⟩

theorem remember_tab (screen : Screen) (request : SentRequest) (answer : Answer) :
    (screen.remember request answer).tab = screen.tab := by
  unfold remember
  split <;> rfl

theorem mem_replayed_remember {screen : Screen} {request : SentRequest} {answer : Answer}
    {held : SentRequest × UserInfo} :
    held ∈ (screen.remember request answer).replayed ↔ held ∈ screen.replayed ∨
      ∃ user number, answer = .ok user ∧ request.userInfo = some number ∧
        held = (request, user) := by
  unfold remember
  split
  · rename_i user number isNumber
    simp [isNumber, or_comm]
  · rename_i notBoth
    constructor
    · exact Or.inl
    · rintro (older | ⟨user, number, rfl, isNumber, -⟩)
      · exact older
      · exact absurd isNumber (notBoth user number rfl)

/-- A step of the tab that neither asks for the user nor answers that, and forgets the
cached request or keeps the token while there is one. -/
theorem Requests.of_same (requests : Requests backendUrl past self) {tab : Tab}
    (numbered : tab.Numbered)
    (outgoing : ∀ request, request.userInfo ≠ none →
      (request ∈ tab.outgoing ↔ request ∈ self.tab.outgoing))
    (issued : tab.browser.issued = self.tab.browser.issued)
    (cached : ∀ number, tab.browser.userInfo.request = some number →
      self.tab.browser.userInfo.request = some number ∧
        (tab.authService.isAuthenticated = true →
          tab.authService.tokenStorage = self.tab.authService.tokenStorage)) :
    Requests backendUrl past { self with tab := tab } := by
  refine ⟨numbered, fun held member => ?_, fun number isCached => ?_⟩
  · rcases requests.held held member with ⟨before, number, isNumber, below⟩
    exact ⟨before, number, isNumber, by rw [issued]; exact below⟩
  · rcases cached number isCached with ⟨before, sameToken⟩
    rcases requests.cached number before with ⟨carries, served⟩
    refine ⟨fun session request listed isNumber => ?_, ?_⟩
    · have token := sameToken session
      have signedIn : self.isAuthenticated = true := by
        rw [← session]
        exact (@isAuthenticated_of_token self { self with tab := tab } token).symm
      have awaited : request.userInfo ≠ none := by simp [isNumber]
      rw [carries signedIn request (listed.imp_left (outgoing request awaited).mp) isNumber]
      simp only [AuthService.authorizationFor, AuthService.getAuthorizationHeader, token]
    · refine served.imp_left ?_
      rintro ⟨request, member, isNumber⟩
      exact ⟨request, (outgoing request (by simp [isNumber])).mpr member, isNumber⟩

/-- Asking for the user. -/
theorem Requests.load (requests : Requests backendUrl past self) :
    Requests backendUrl past (self.act backendUrl .loadCurrentUser) := by
  cases cached : self.tab.browser.userInfo.request with
  | some number =>
      unfold act
      rw [Tab.step_load_cached cached]
      exact requests
  | none =>
      have browser : (self.act backendUrl .loadCurrentUser).tab.browser = _ :=
        Browser.step_loadCurrentUser_uncached cached
      have outgoing : (self.act backendUrl .loadCurrentUser).tab.outgoing = _ :=
        Tab.outgoing_loadCurrentUser_uncached backendUrl cached
      refine ⟨requests.numbered.load, fun held member => ?_, fun number isCached => ?_⟩
      · rcases requests.held held member with ⟨before, number, isNumber, below⟩
        refine ⟨before, number, isNumber, ?_⟩
        rw [browser]
        exact Nat.lt_succ_of_lt below
      · rw [browser] at isCached
        obtain rfl := Option.some.inj isCached
        refine ⟨fun session request listed isNumber => ?_, Or.inl ?_⟩
        · have token : (self.act backendUrl .loadCurrentUser).tab.authService.tokenStorage =
              self.tab.authService.tokenStorage := Browser.loadCurrentUser_keeps.1
          rw [outgoing] at listed
          rcases listed with sent | ⟨user, held⟩
          · rcases List.mem_cons.mp sent with rfl | older
            · simp only [AuthService.authorizationFor, AuthService.getAuthorizationHeader, token]
            · have below := (requests.numbered.waiting request older _ isNumber).1
              omega
          · obtain ⟨-, number, same, below⟩ := requests.held _ held
            obtain rfl := Option.some.inj (isNumber.symm.trans same)
            omega
        · rw [OnItsWay, outgoing]
          exact ⟨_, List.mem_cons_self, rfl⟩

/-- Delivering an answer: a user goes to `shareReplay`, an error is forgotten. -/
theorem Requests.deliver (requests : Requests backendUrl past self) {id : Nat}
    {request : SentRequest} (found : self.tab.waiting id = some request) {answer : Answer}
    (now : answered.before = self) (input : answered.input = .deliver id answer) :
    Requests backendUrl (answered :: past)
      ((self.act backendUrl (.deliver id answer)).remember request answer) := by
  have done := @Tab.delivered backendUrl self.tab requests.numbered id request found answer
  have listed : request ∈ self.tab.outgoing := List.mem_of_find?_eq_some found
  have isId : request.id = id := by simpa using List.find?_some found
  have tab : ((self.act backendUrl (.deliver id answer)).remember request answer).tab =
      self.tab.step backendUrl (.deliver id answer) := remember_tab _ _ _
  refine ⟨?_, fun held member => ?_, fun number isCached => ?_⟩
  · rw [tab]
    exact requests.numbered.step _
  · rw [tab, done.issued]
    rcases mem_replayed_remember.mp member with older | ⟨user, number, rfl, isNumber, rfl⟩
    · exact ⟨(requests.held held older).1.cons, (requests.held held older).2⟩
    · refine ⟨⟨answered, List.mem_cons_self, ?_, ?_⟩, number, isNumber,
        (requests.numbered.waiting request listed number isNumber).1⟩
      · rw [isId]
        exact input
      · rw [now, isId]
        exact found
  · rw [tab] at isCached
    rcases done.forgets number isCached with ⟨before, passes, answers⟩
    rcases requests.cached number before with ⟨carries, served⟩
    have token : (self.tab.step backendUrl (.deliver id answer)).authService.tokenStorage =
        self.tab.authService.tokenStorage := by
      rw [done.token, if_neg (by simp [passes])]
    refine ⟨fun session other member isNumber => ?_, ?_⟩
    · have signedIn : self.isAuthenticated = true := by
        rw [← session]
        exact (isAuthenticated_of_token (by rw [tab, token])).symm
      have older : other ∈ self.tab.outgoing ∨ ∃ user, (other, user) ∈ self.replayed := by
        rcases member with onItsWay | ⟨user, held⟩
        · rw [tab, done.outgoing] at onItsWay
          exact Or.inl (List.mem_of_mem_filter onItsWay)
        · rcases mem_replayed_remember.mp held with older | ⟨_, _, -, -, same⟩
          · exact Or.inr ⟨user, older⟩
          · obtain ⟨rfl, -⟩ := Prod.mk.inj same
            exact Or.inl listed
      rw [carries signedIn other older isNumber, tab]
      simp only [AuthService.authorizationFor, AuthService.getAuthorizationHeader, token]
    · rcases served with ⟨other, onItsWay, isNumber⟩ | held
      · by_cases same : other = request
        · right
          subst same
          obtain ⟨user, rfl⟩ := answers (by simp [isNumber])
          exact replay_ne_none_iff.mpr ⟨(other, user),
            mem_replayed_remember.mpr (Or.inr ⟨user, number, rfl, isNumber, rfl⟩), isNumber⟩
        · left
          refine ⟨other, ?_, isNumber⟩
          rw [tab, done.outgoing]
          exact List.mem_filter.mpr ⟨onItsWay,
            decide_eq_true fun equal => same (Option.some.inj equal).symm⟩
      · right
        obtain ⟨older, member, isNumber⟩ := replay_ne_none_iff.mp held
        exact replay_ne_none_iff.mpr ⟨older, mem_replayed_remember.mpr (Or.inl member), isNumber⟩

/-! ### The page of a tab -/

/-- The action signs somebody in or out: a login, a logout or a 401 that logs out. -/
def RenewsSession (screen : Screen) : ScreenAction → Prop
  | .loginSucceeds _ => True
  | .logout => True
  | .deliver id answer =>
      ∃ request, screen.tab.waiting id = some request ∧ logsOut request.url answer = true
  | _ => False

/-- A login failed since the last of these. -/
def LoginFailedLast : Past → Prop
  | [] => False
  | answered :: older => answered.input = .loginFails ∨
      ¬ answered.before.RenewsSession answered.input ∧ LoginFailedLast older

/-- The page is behind a guard. -/
def Guarded (screen : Screen) : Prop :=
  ∃ view : View, screen.view = some view ∧ view.canActivate ≠ []

/-- The page with the answer and the session it was entered with. -/
structure Entered (backendUrl : String) (past : Past) (screen : Screen) : Prop where
  admin : screen.view = some .admin → ∃ held ∈ screen.replayed, held.2.role = adminRole ∧
    (screen.isAuthenticated = true → held.1.authorization =
      screen.tab.authService.authorizationFor (Tab.usersMeUrl backendUrl))
  session : screen.Guarded → screen.isAuthenticated = false → LoginFailedLast past

/-- A guard that waits for this request. -/
structure Awaits (backendUrl : String) (past : Past) (screen : Screen) (number : Nat) : Prop where
  below : number < screen.tab.browser.issued
  carries : screen.Carries backendUrl number
  onItsWay : screen.OnItsWay number
  session : screen.isAuthenticated = false → LoginFailedLast past

structure Sound (backendUrl : String) (past : Past) (screen : Screen) : Prop where
  requests : Requests backendUrl past screen
  entered : Entered backendUrl past screen
  awaits : ∀ number, screen.awaited = some number → Awaits backendUrl past screen number

/-- A step that leaves the page and the session alone, unless it takes the session away. -/
structure Keeps (past later : Past) (before after : Screen) : Prop where
  view : after.view = before.view
  awaited : after.awaited = before.awaited
  token : after.isAuthenticated = true →
    after.tab.authService.tokenStorage = before.tab.authService.tokenStorage
  session : after.isAuthenticated = false →
    (before.isAuthenticated = false → LoginFailedLast past) → LoginFailedLast later
  replayed : ∀ held ∈ before.replayed, held ∈ after.replayed
  fresh : ∀ held ∈ after.replayed, held ∈ before.replayed ∨ held.1 ∈ before.tab.outgoing
  sent : ∀ request ∈ after.tab.outgoing, ∀ number, request.userInfo = some number →
    number < before.tab.browser.issued → request ∈ before.tab.outgoing
  issued : before.tab.browser.issued ≤ after.tab.browser.issued

section Keeping

variable {later : Past} {before after : Screen}

theorem Keeps.header (keeps : Keeps past later before after)
    (session : after.isAuthenticated = true) :
    before.isAuthenticated = true ∧
      after.tab.authService.authorizationFor (Tab.usersMeUrl backendUrl) =
        before.tab.authService.authorizationFor (Tab.usersMeUrl backendUrl) := by
  have token := keeps.token session
  refine ⟨?_, ?_⟩
  · rw [← session]
    exact (isAuthenticated_of_token token).symm
  · simp only [AuthService.authorizationFor, AuthService.getAuthorizationHeader, token]

theorem Entered.keep (entered : Entered backendUrl past before)
    (keeps : Keeps past later before after) : Entered backendUrl later after where
  admin := by
    intro isAdmin
    obtain ⟨held, member, administrator, header⟩ := entered.admin (keeps.view ▸ isAdmin)
    refine ⟨held, keeps.replayed held member, administrator, fun session => ?_⟩
    rcases keeps.header session with ⟨signedIn, same⟩
    rw [same]
    exact header signedIn
  session := by
    rintro ⟨view, isView, behind⟩ signedOut
    exact keeps.session signedOut (entered.session ⟨view, keeps.view ▸ isView, behind⟩)

theorem Awaits.keep {number : Nat} (awaits : Awaits backendUrl past before number)
    (keeps : Keeps past later before after) (onItsWay : after.OnItsWay number) :
    Awaits backendUrl later after number where
  below := Nat.lt_of_lt_of_le awaits.below keeps.issued
  carries := by
    intro session request listed isNumber
    rcases keeps.header session with ⟨signedIn, same⟩
    rw [same]
    apply awaits.carries signedIn request _ isNumber
    rcases listed with sent | ⟨user, held⟩
    · exact Or.inl (keeps.sent request sent number isNumber awaits.below)
    · rcases keeps.fresh _ held with older | answeredNow
      · exact Or.inr ⟨user, older⟩
      · exact Or.inl answeredNow
  onItsWay := onItsWay
  session := fun signedOut => keeps.session signedOut awaits.session

/-- Asking for the user keeps the page. -/
theorem Keeps.load
    (stays : LoginFailedLast past → LoginFailedLast later) :
    Keeps past later self (self.act backendUrl .loadCurrentUser) := by
  have token : (self.act backendUrl .loadCurrentUser).tab.authService.tokenStorage =
      self.tab.authService.tokenStorage := Browser.loadCurrentUser_keeps.1
  refine ⟨rfl, rfl, fun _ => token, fun signedOut before => ?_, fun _ member => member,
    fun _ member => Or.inl member, ?_, ?_⟩
  · exact stays (before ((isAuthenticated_of_token token).symm.trans signedOut))
  · intro request member number isNumber below
    rcases Tab.mem_outgoing_step member with older | sent
    · exact older
    · simp only [Tab.sends] at sent
      split at sent
      · obtain rfl := Option.some.inj sent
        obtain rfl := Option.some.inj isNumber
        omega
      · cases sent
  · show _ ≤ (self.tab.browser.step .loadCurrentUser).issued
    unfold Browser.step
    dsimp only
    split
    · exact Nat.le_succ _
    · exact Nat.le_refl _

theorem OnItsWay.load {number : Nat} (onItsWay : self.OnItsWay number) :
    (self.act backendUrl .loadCurrentUser).OnItsWay number := by
  obtain ⟨request, member, isNumber⟩ := onItsWay
  refine ⟨request, ?_, isNumber⟩
  apply List.mem_append_right
  exact List.mem_filter.mpr ⟨member, by simp [Tab.answers]⟩

/-- A navigation enters pages with a session and an administrator's answer only, and waits
for a request that is on its way. -/
theorem Sound.settles (requests : Requests backendUrl past before)
    (entered : Entered backendUrl past before) (settles : Settles before after) :
    Sound backendUrl past after := by
  cases settles with
  | stays =>
      refine ⟨⟨requests.numbered, requests.held, requests.cached⟩, ⟨entered.admin, ?_⟩, nofun⟩
      exact entered.session
  | enters view session administrator =>
      refine ⟨⟨requests.numbered, requests.held, requests.cached⟩, ⟨?_, ?_⟩, nofun⟩
      · intro isAdmin
        obtain ⟨user, held, isAdministrator⟩ := administrator (Option.some.inj isAdmin)
        cases cached : before.tab.browser.userInfo.request with
        | none =>
            rw [cached] at held
            cases held
        | some number =>
            rw [cached] at held
            rcases mem_of_replay held with ⟨request, member, isNumber⟩
            refine ⟨(request, user), member, isAdministrator, fun signedIn => ?_⟩
            have held : request ∈ before.tab.outgoing ∨
                ∃ user, (request, user) ∈ before.replayed := Or.inr ⟨user, member⟩
            exact (requests.cached number cached).1 signedIn request held isNumber
      · rintro ⟨other, isView, behind⟩ signedOut
        obtain rfl := Option.some.inj isView
        have signedIn : before.isAuthenticated = true := session behind
        have sameSession : before.isAuthenticated = false := signedOut
        rw [signedIn] at sameSession
        cases sameSession
  | waits session unanswered =>
      refine ⟨⟨requests.numbered, requests.held, requests.cached⟩,
        ⟨entered.admin, entered.session⟩, fun number awaited => ?_⟩
      have cached : before.tab.browser.userInfo.request = some number := awaited
      rcases requests.cached number cached with ⟨carries, served⟩
      refine ⟨requests.numbered.cached number cached, carries,
        served.resolve_right fun held => held (cached ▸ unanswered), fun signedOut => ?_⟩
      have sameSession : before.isAuthenticated = false := signedOut
      rw [session] at sameSession
      cases sameSession

theorem Sound.goTo (requests : Requests backendUrl past self)
    (entered : Entered backendUrl past self) (url : String) :
    Sound backendUrl past (self.goTo backendUrl url) := by
  rcases goTo_settles backendUrl self url with ⟨started, rfl | rfl, settles⟩
  · exact .settles requests entered settles
  · exact .settles requests.load (entered.keep (.load id)) settles

end Keeping

/-! ### Runs -/

section Steps

variable {action : ScreenAction}

/-- What is said about the last login stays so unless somebody signs in or out. -/
theorem loginFailedLast_cons (now : answered.before = self) (input : answered.input = action)
    (keepsSession : ¬ self.RenewsSession action) (failed : LoginFailedLast past) :
    LoginFailedLast (answered :: past) :=
  Or.inr ⟨by rw [now, input]; exact keepsSession, failed⟩

theorem Sound.keep {later : Past} {before after : Screen} (sound : Sound backendUrl past before)
    (requests : Requests backendUrl later after) (keeps : Keeps past later before after)
    (onItsWay : ∀ number, before.awaited = some number → before.OnItsWay number →
      after.OnItsWay number) : Sound backendUrl later after := by
  refine ⟨requests, sound.entered.keep keeps, fun number awaited => ?_⟩
  have waiting := sound.awaits number (keeps.awaited ▸ awaited)
  exact waiting.keep keeps (onItsWay number (keeps.awaited ▸ awaited) waiting.onItsWay)

/-- A page nobody has to be signed in for, entered with no guard left waiting. -/
theorem Sound.of_view {screen : Screen} (requests : Requests backendUrl past screen)
    (notAdmin : screen.view ≠ some .admin) (idle : screen.awaited = none)
    (session : screen.Guarded → screen.isAuthenticated = true) : Sound backendUrl past screen := by
  refine ⟨requests, ⟨fun isAdmin => absurd isAdmin notAdmin, fun guarded signedOut => ?_⟩,
    fun number awaited => ?_⟩
  · rw [session guarded] at signedOut
    cases signedOut
  · rw [idle] at awaited
    cases awaited

theorem Requests.enter {view : Option View} {awaited : Option Nat}
    (requests : Requests backendUrl past self) :
    Requests backendUrl past { self with view := view, awaited := awaited } :=
  ⟨requests.numbered, requests.held, requests.cached⟩

/-- Signing out ends on the login page. -/
theorem Sound.signedOut (requests : Requests backendUrl past self) :
    Sound backendUrl past (self.goTo backendUrl "/login") := by
  rw [goTo_login]
  refine .of_view requests.enter (fun isAdmin => by cases isAdmin) rfl ?_
  rintro ⟨view, isView, behind⟩
  obtain rfl := Option.some.inj isView
  exact absurd rfl behind

/-- Signing in ends on the home page. -/
theorem Sound.signedIn (requests : Requests backendUrl past self)
    (session : self.isAuthenticated = true) :
    Sound backendUrl past (self.goTo backendUrl "/home") := by
  rw [goTo_home, if_pos (Or.inr session)]
  exact .of_view requests.enter (fun isAdmin => by cases isAdmin) rfl fun _ => session

theorem Requests.silent (requests : Requests backendUrl past self) {action : TabAction}
    (sendsNothing : self.tab.sends backendUrl action = none)
    (answersNothing : self.tab.answers action = none)
    (issued : (self.tab.step backendUrl action).browser.issued = self.tab.browser.issued)
    (cached : ∀ number, (self.tab.step backendUrl action).browser.userInfo.request = some number →
      self.tab.browser.userInfo.request = some number ∧
        ((self.tab.step backendUrl action).authService.isAuthenticated = true →
          (self.tab.step backendUrl action).authService.tokenStorage =
            self.tab.authService.tokenStorage)) :
    Requests backendUrl past (self.act backendUrl action) :=
  requests.of_same (requests.numbered.step action)
    (fun request _ => by rw [Tab.outgoing_silent sendsNothing answersNothing]) issued cached

theorem OnItsWay.act {number : Nat} (onItsWay : self.OnItsWay number) {action : TabAction}
    (answersNothing : self.tab.answers action = none) :
    (self.act backendUrl action).OnItsWay number := by
  obtain ⟨request, member, isNumber⟩ := onItsWay
  refine ⟨request, ?_, isNumber⟩
  apply List.mem_append_right
  exact List.mem_filter.mpr ⟨member, by simp [answersNothing]⟩

/-- Any other request. -/
theorem Sound.send (sound : Sound backendUrl past self) (url : String)
    (stays : LoginFailedLast past → LoginFailedLast (answered :: past)) :
    Sound backendUrl (answered :: past) (self.act backendUrl (.send url)) := by
  have older : ∀ request ∈ (self.act backendUrl (.send url)).tab.outgoing,
      request.userInfo ≠ none → request ∈ self.tab.outgoing := by
    intro request member awaited
    rcases Tab.mem_outgoing_step member with older | sent
    · exact older
    · obtain rfl := Option.some.inj sent
      exact absurd rfl awaited
  have kept : ∀ request ∈ self.tab.outgoing,
      request ∈ (self.act backendUrl (.send url)).tab.outgoing := by
    intro request member
    apply List.mem_append_right
    exact List.mem_filter.mpr ⟨member, by simp [Tab.answers]⟩
  have requests : Requests backendUrl past (self.act backendUrl (.send url)) :=
    sound.requests.of_same (sound.requests.numbered.step (.send url))
      (fun request awaited => ⟨fun member => older request member awaited, kept request⟩) rfl
      fun number isCached => ⟨isCached, fun _ => rfl⟩
  refine sound.keep requests.cons ?_ fun number _ onItsWay => onItsWay.act rfl
  refine ⟨rfl, rfl, fun _ => rfl, fun signedOut before => stays (before signedOut),
    fun _ member => member, fun _ member => Or.inl member, ?_, Nat.le_refl _⟩
  intro request member number isNumber _
  exact older request member (by simp [isNumber])

/-- A failed login takes the token away and leaves the page. -/
theorem Sound.loginFails (sound : Sound backendUrl past self)
    (input : answered.input = .loginFails) :
    Sound backendUrl (answered :: past) (self.act backendUrl .loginFails) := by
  have signedOut : (self.act backendUrl .loginFails).isAuthenticated = false := rfl
  have requests : Requests backendUrl past (self.act backendUrl .loginFails) := by
    apply sound.requests.silent rfl rfl rfl
    intro number isCached
    refine ⟨isCached, fun session => ?_⟩
    cases session
  refine sound.keep requests.cons ?_ fun number _ onItsWay => onItsWay.act rfl
  refine ⟨rfl, rfl, fun session => ?_, fun _ _ => Or.inl input, fun _ member => member,
    fun _ member => Or.inl member, fun request member _ _ _ => ?_, Nat.le_refl _⟩
  · rw [signedOut] at session
    cases session
  · rcases Tab.mem_outgoing_step member with older | sent
    · exact older
    · cases sent

theorem remember_view (screen : Screen) (request : SentRequest) (answer : Answer) :
    (screen.remember request answer).view = screen.view ∧
      (screen.remember request answer).awaited = screen.awaited := by
  unfold remember
  split <;> exact ⟨rfl, rfl⟩

/-- An answer that does not log out keeps the page and the session. -/
theorem Keeps.deliver (numbered : self.tab.Numbered) {id : Nat} {request : SentRequest}
    (found : self.tab.waiting id = some request) {answer : Answer}
    (passes : logsOut request.url answer = false)
    (stays : LoginFailedLast past → LoginFailedLast (answered :: past)) :
    Keeps past (answered :: past) self
      ((self.act backendUrl (.deliver id answer)).remember request answer) := by
  have done := @Tab.delivered backendUrl self.tab numbered id request found answer
  have tab : ((self.act backendUrl (.deliver id answer)).remember request answer).tab =
      self.tab.step backendUrl (.deliver id answer) := remember_tab _ _ _
  have page := remember_view (self.act backendUrl (.deliver id answer)) request answer
  have token : ((self.act backendUrl (.deliver id answer)).remember request
      answer).tab.authService.tokenStorage = self.tab.authService.tokenStorage := by
    rw [tab, done.token, if_neg (by simp [passes])]
  refine ⟨page.1, page.2, fun _ => token, fun signedOut before => ?_, fun held member => ?_,
    fun held member => ?_, fun other member number isNumber _ => ?_, ?_⟩
  · exact stays (before ((isAuthenticated_of_token token).symm.trans signedOut))
  · exact mem_replayed_remember.mpr (Or.inl member)
  · rcases mem_replayed_remember.mp member with older | ⟨user, number, -, -, rfl⟩
    · exact Or.inl older
    · exact Or.inr (List.mem_of_find?_eq_some found)
  · rw [tab, done.outgoing] at member
    exact List.mem_of_mem_filter member
  · rw [tab, done.issued]

/-- The guard got its answer: the list is opened for an administrator, and otherwise the
router goes to another page. -/
theorem Sound.resume (sound : Sound backendUrl past self) {id : Nat} {request : SentRequest}
    (found : self.tab.waiting id = some request) {answer : Answer} {number : Nat}
    (isNumber : request.userInfo = some number) (awaited : self.awaited = some number)
    (requests : Requests backendUrl (answered :: past)
      ((self.act backendUrl (.deliver id answer)).remember request answer))
    (keeps : Keeps past (answered :: past) self
      ((self.act backendUrl (.deliver id answer)).remember request answer)) :
    Sound backendUrl (answered :: past)
      (((self.act backendUrl (.deliver id answer)).remember request answer).resume backendUrl
        answer) := by
  have waiting := sound.awaits number awaited
  unfold Screen.resume
  cases verdict : adminGuard answer with
  | urlTree url => exact .goTo requests (sound.entered.keep keeps) url
  | activate =>
      obtain ⟨user, rfl, administrator⟩ : ∃ user, answer = .ok user ∧ user.role = adminRole := by
        cases answer with
        | error error => cases verdict
        | ok user =>
            refine ⟨user, rfl, ?_⟩
            by_contra notAdmin
            simp [adminGuard, notAdmin] at verdict
      refine ⟨requests.enter, ⟨fun _ => ?_, fun _ signedOut => ?_⟩,
        fun other waits => by cases waits⟩
      · refine ⟨(request, user),
          mem_replayed_remember.mpr (Or.inr ⟨user, number, rfl, isNumber, rfl⟩),
          administrator, fun session => ?_⟩
        rcases @Keeps.header backendUrl _ _ _ _ keeps session with ⟨signedIn, same⟩
        refine Eq.trans ?_ same.symm
        exact waiting.carries signedIn request (Or.inl (List.mem_of_find?_eq_some found)) isNumber
      · exact keeps.session signedOut waiting.session

theorem Sound.deliver (sound : Sound backendUrl past self) {id : Nat} {answer : Answer}
    (now : answered.before = self) (input : answered.input = .deliver id answer) :
    Sound backendUrl (answered :: past) (self.step backendUrl (.deliver id answer)) := by
  cases found : self.tab.waiting id with
  | none =>
      have same : self.step backendUrl (.deliver id answer) = self := by
        simp only [step, found]
      have stays : LoginFailedLast past → LoginFailedLast (answered :: past) := by
        apply loginFailedLast_cons now input
        rintro ⟨request, waits, -⟩
        rw [found] at waits
        cases waits
      rw [same]
      refine sound.keep sound.requests.cons ?_ fun _ _ onItsWay => onItsWay
      exact ⟨rfl, rfl, fun _ => rfl, fun signedOut before => stays (before signedOut),
        fun _ member => member, fun _ member => Or.inl member, fun _ member _ _ _ => member,
        Nat.le_refl _⟩
  | some request =>
      have requests := sound.requests.deliver found now input
      simp only [step, found]
      by_cases logs : logsOut request.url answer = true
      · rw [if_pos logs]
        exact .signedOut requests
      · rw [if_neg logs]
        have passes : logsOut request.url answer = false := Bool.eq_false_iff.mpr logs
        have stays : LoginFailedLast past → LoginFailedLast (answered :: past) := by
          apply loginFailedLast_cons now input
          rintro ⟨other, waits, otherLogs⟩
          rw [found] at waits
          obtain rfl := Option.some.inj waits
          exact logs otherLogs
        have keeps := @Keeps.deliver backendUrl self past answered sound.requests.numbered id
          request found answer passes stays
        by_cases resumes : request.userInfo ≠ none ∧ request.userInfo = self.awaited
        · rw [if_pos resumes]
          obtain ⟨number, isNumber⟩ := Option.ne_none_iff_exists'.mp resumes.1
          exact sound.resume found isNumber (resumes.2 ▸ isNumber) requests keeps
        · rw [if_neg resumes]
          refine sound.keep requests keeps fun number awaited onItsWay => ?_
          obtain ⟨other, member, isNumber⟩ := onItsWay
          refine ⟨other, ?_, isNumber⟩
          rw [remember_tab]
          have done := @Tab.delivered backendUrl self.tab sound.requests.numbered id request found
            answer
          show other ∈ (self.tab.step backendUrl (.deliver id answer)).outgoing
          rw [done.outgoing]
          refine List.mem_filter.mpr ⟨member, decide_eq_true fun same => resumes ?_⟩
          obtain rfl := Option.some.inj same
          exact ⟨by simp [isNumber], isNumber.trans awaited.symm⟩

/-- Every action keeps the screen sound, as long as no login brings an empty token. -/
theorem Sound.step (sound : Sound backendUrl past self) (action : ScreenAction)
    (issued : action ≠ .loginSucceeds "") :
    Sound backendUrl ((machine backendUrl).entry self action :: past)
      (self.step backendUrl action) := by
  have stays : ¬ self.RenewsSession action → LoginFailedLast past →
      LoginFailedLast ((machine backendUrl).entry self action :: past) :=
    loginFailedLast_cons rfl rfl
  cases action with
  | navigate url =>
      have idle : Sound backendUrl ((machine backendUrl).entry self (.navigate url) :: past)
          self := by
        refine sound.keep sound.requests.cons ?_ fun _ _ onItsWay => onItsWay
        exact ⟨rfl, rfl, fun _ => rfl, fun signedOut before => stays id (before signedOut),
          fun _ member => member, fun _ member => Or.inl member, fun _ member _ _ _ => member,
          Nat.le_refl _⟩
      exact .goTo idle.requests idle.entered url
  | loadCurrentUser =>
      exact sound.keep sound.requests.load.cons (.load (stays id)) fun _ _ onItsWay => onItsWay.load
  | send url => exact sound.send url (stays id)
  | loginSucceeds accessToken =>
      have nonempty : accessToken ≠ "" := fun empty => issued (congrArg _ empty)
      have requests : Requests backendUrl past (self.act backendUrl (.loginSucceeds accessToken)) :=
        sound.requests.silent rfl rfl rfl nofun
      apply Sound.signedIn requests.cons
      show (accessToken != "") = true
      exact bne_iff_ne.mpr nonempty
  | loginFails => exact sound.loginFails rfl
  | logout =>
      have requests : Requests backendUrl past (self.act backendUrl .logout) :=
        sound.requests.silent rfl rfl rfl nofun
      exact .signedOut requests.cons
  | deliver id answer => exact sound.deliver rfl rfl

theorem sound_opened (backendUrl : String) (token : Option String) :
    Sound backendUrl [] (opened token) := by
  refine .of_view ⟨Tab.numbered_opened token, nofun, nofun⟩ nofun rfl ?_
  rintro ⟨view, isView, -⟩
  cases isView

end Steps

/-- The backend issues no empty token. -/
def Issued : Machine.Environment Screen ScreenAction Unit :=
  fun _ _ action => action ≠ .loginSucceeds ""

section Runs

variable {token : Option String} {screen : Screen}

theorem sound_of_run
    (run : Machine.Run (machine backendUrl) Issued (opened token) past screen) :
    Sound backendUrl past screen := by
  apply run.invariant (sound_opened backendUrl token)
  intro earlier before action _ issued sound
  exact sound.step action issued

/-- A navigation does nothing to the tab but ask for the user. -/
theorem goTo_tab (self : Screen) (url : String) : ∃ actions : List TabAction,
    (self.goTo backendUrl url).tab = actions.foldl (Tab.step backendUrl) self.tab ∧
      (self.goTo backendUrl url).tab.authService.tokenStorage =
        self.tab.authService.tokenStorage := by
  have settled : ∀ {started after : Screen}, Settles started after → after.tab = started.tab := by
    intro started after settles
    cases settles <;> rfl
  rcases goTo_settles backendUrl self url with ⟨started, rfl | rfl, settles⟩
  · rw [settled settles]
    exact ⟨[], rfl, rfl⟩
  · rw [settled settles]
    exact ⟨[.loadCurrentUser], rfl, Browser.loadCurrentUser_keeps.1⟩

theorem resume_tab (self : Screen) (answer : Answer) : ∃ actions : List TabAction,
    (self.resume backendUrl answer).tab = actions.foldl (Tab.step backendUrl) self.tab ∧
      (self.resume backendUrl answer).tab.authService.tokenStorage =
        self.tab.authService.tokenStorage := by
  unfold Screen.resume
  split
  · exact ⟨[], rfl, rfl⟩
  · exact goTo_tab self _

/-- What an action does to the tab behind the screen: the router adds nothing of its own
but requests for the user. -/
theorem step_tab (self : Screen) (action : ScreenAction) : ∃ actions : List TabAction,
    (self.step backendUrl action).tab = actions.foldl (Tab.step backendUrl) self.tab := by
  cases action with
  | navigate url =>
      obtain ⟨actions, tab, -⟩ := @goTo_tab backendUrl self url
      exact ⟨actions, tab⟩
  | loadCurrentUser => exact ⟨[.loadCurrentUser], rfl⟩
  | send url => exact ⟨[.send url], rfl⟩
  | loginSucceeds accessToken =>
      obtain ⟨actions, tab, -⟩ :=
        @goTo_tab backendUrl (self.act backendUrl (.loginSucceeds accessToken)) "/home"
      exact ⟨.loginSucceeds accessToken :: actions, tab⟩
  | loginFails => exact ⟨[.loginFails], rfl⟩
  | logout =>
      obtain ⟨actions, tab, -⟩ := @goTo_tab backendUrl (self.act backendUrl .logout) "/login"
      exact ⟨.logout :: actions, tab⟩
  | deliver id answer =>
      simp only [step]
      cases found : self.tab.waiting id with
      | none => exact ⟨[], rfl⟩
      | some request =>
          have delivered := remember_tab (self.act backendUrl (.deliver id answer)) request answer
          dsimp only
          split
          · obtain ⟨actions, tab, -⟩ := @goTo_tab backendUrl
              ((self.act backendUrl (.deliver id answer)).remember request answer) "/login"
            rw [tab, delivered]
            exact ⟨.deliver id answer :: actions, rfl⟩
          · split
            · obtain ⟨actions, tab, -⟩ := @resume_tab backendUrl
                ((self.act backendUrl (.deliver id answer)).remember request answer) answer
              rw [tab, delivered]
              exact ⟨.deliver id answer :: actions, rfl⟩
            · rw [delivered]
              exact ⟨[.deliver id answer], rfl⟩

/-- The tab behind a screen goes through a run of its own. -/
theorem tab_run {environment : Machine.Environment Screen ScreenAction Unit}
    (run : Machine.Run (machine backendUrl) environment (opened token) past screen) :
    ∃ tabPast, Machine.Run (Tab.machine backendUrl) Machine.unrestricted (.opened token) tabPast
      screen.tab := by
  apply run.invariant
  · exact ⟨[], .start⟩
  · intro earlier before action _ _ tabBefore
    obtain ⟨tabPast, tabRun⟩ := tabBefore
    obtain ⟨actions, tab⟩ := @step_tab backendUrl before action
    have together := (Tab.machine backendUrl).run_execute tabRun
      ((Tab.machine backendUrl).allows_unrestricted actions)
    rw [Machine.execute_state] at together
    refine ⟨((Tab.machine backendUrl).execute tabPast before.tab actions).1, ?_⟩
    rw [show ((machine backendUrl).next before action).tab = _ from tab]
    exact together

/-- Only a login, a logout or a 401 that logs out touches the token, and a failed login. -/
theorem token_step {action : ScreenAction} (keepsSession : ¬ self.RenewsSession action)
    (succeeds : action ≠ .loginFails) :
    (self.step backendUrl action).tab.authService.tokenStorage =
      self.tab.authService.tokenStorage := by
  cases action with
  | navigate url =>
      obtain ⟨-, -, token⟩ := @goTo_tab backendUrl self url
      exact token
  | loadCurrentUser => exact Browser.loadCurrentUser_keeps.1
  | send url => rfl
  | loginSucceeds accessToken => exact absurd trivial keepsSession
  | loginFails => exact absurd rfl succeeds
  | logout => exact absurd trivial keepsSession
  | deliver id answer =>
      simp only [step]
      cases found : self.tab.waiting id with
      | none => rfl
      | some request =>
          have passes : ¬ logsOut request.url answer = true :=
            fun logs => keepsSession ⟨request, found, logs⟩
          have delivered : ((self.act backendUrl (.deliver id answer)).remember request
              answer).tab.authService.tokenStorage = self.tab.authService.tokenStorage := by
            rw [remember_tab]
            apply Tab.token_next
            apply Tab.deliver_quiet
            rintro other ⟨otherId, error, delivers, status, waits, intercepted⟩
            obtain ⟨rfl, rfl⟩ := TabAction.deliver.inj delivers
            rw [found] at waits
            obtain rfl := Option.some.inj waits
            exact passes (Tab.logsOut_iff.mpr ⟨error, rfl, status, intercepted⟩)
          dsimp only
          rw [if_neg passes]
          split
          · obtain ⟨-, -, token⟩ := @resume_tab backendUrl
              ((self.act backendUrl (.deliver id answer)).remember request answer) answer
            exact token.trans delivered
          · exact delivered

theorem token_of_loginFailed {environment : Machine.Environment Screen ScreenAction Unit}
    (run : Machine.Run (machine backendUrl) environment (opened token) past screen)
    (failed : LoginFailedLast past) : screen.tab.authService.tokenStorage = none := by
  induction run with
  | start => cases failed
  | @step past before action earlier allowed inductionHypothesis =>
      show (before.step backendUrl action).tab.authService.tokenStorage = none
      rcases failed with now | ⟨keepsSession, older⟩
      · have fails : action = .loginFails := now
        subst fails
        rfl
      · by_cases fails : action = .loginFails
        · subst fails
          rfl
        · have keepsNow : ¬ before.RenewsSession action := keepsSession
          exact (token_step keepsNow fails).trans (inductionHypothesis older)

/-- In every run a page behind a guard is on the screen of somebody who is signed out
exactly when a login failed since the last login or logout. -/
theorem guarded_page_signedOut_iff
    (run : Machine.Run (machine backendUrl) Issued (opened token) past screen)
    (guarded : screen.Guarded) : screen.isAuthenticated = false ↔ LoginFailedLast past := by
  constructor
  · exact (sound_of_run run).entered.session guarded
  · intro failed
    have removed := token_of_loginFailed run failed
    simp only [isAuthenticated, AuthService.isAuthenticated, removed]

/-- A login that was sent from the login page fails after its reader went back home. -/
private def failedLogin : List ScreenAction :=
  [.loginSucceeds "token", .navigate "/login", .navigate "/home", .loginFails]

theorem guarded_page_signedOut_iff_failedLogin :
    ((machine "").execute [] (opened none) failedLogin).2.isAuthenticated = false := by
  have issued : (machine "").Allows Issued [] (opened none) failedLogin :=
    ⟨by simp [Issued], by simp [Issued], by simp [Issued], by simp [Issued], trivial⟩
  have run := (machine "").run_execute .start issued
  have home : ((machine "").execute [] (opened none) failedLogin).2.view = some .home := by
    decide
  exact (guarded_page_signedOut_iff run ⟨.home, home, by decide⟩).mpr (Or.inl rfl)

/-- In every run the user list is on the screen only where the backend has named an
administrator in answer to a `/users/me` request of this tab, which carried the token that
is stored now if there is one. -/
theorem admin_page_answered
    (run : Machine.Run (machine backendUrl) Issued (opened token) past screen)
    (shown : screen.view = some .admin) :
    ∃ answered ∈ past, ∃ request user, answered.input = .deliver request.id (.ok user) ∧
      answered.before.tab.waiting request.id = some request ∧ request.userInfo ≠ none ∧
      user.role = adminRole ∧ (screen.isAuthenticated = true → request.authorization =
        screen.tab.authService.authorizationFor (Tab.usersMeUrl backendUrl)) := by
  have sound := sound_of_run run
  obtain ⟨⟨request, user⟩, member, administrator, header⟩ := sound.entered.admin shown
  rcases sound.requests.held _ member with ⟨⟨answered, listed, input, waits⟩, number, isNumber, -⟩
  have named : request.userInfo = some number := isNumber
  exact ⟨answered, listed, request, user, input, waits, by simp [named], administrator, header⟩

private def administrator : UserInfo := ⟨"8d8c45ab", "admin@example.com", true, adminRole⟩

private def reachesAdmin : List ScreenAction :=
  [.loginSucceeds "token", .navigate "/admin", .deliver 0 (.ok administrator)]

theorem admin_page_answered_once :
    ∃ answered ∈ ((machine "").execute [] (opened none) reachesAdmin).1,
      ∃ request : SentRequest, ∃ user : UserInfo,
        answered.input = .deliver request.id (.ok user) ∧ user.role = adminRole := by
  have issued : (machine "").Allows Issued [] (opened none) reachesAdmin :=
    ⟨by simp [Issued], by simp [Issued], by simp [Issued], trivial⟩
  have run := (machine "").run_execute .start issued
  have shown : ((machine "").execute [] (opened none) reachesAdmin).2.view = some .admin := by
    decide
  obtain ⟨answered, listed, request, user, input, -, -, administrator, -⟩ :=
    admin_page_answered run shown
  exact ⟨answered, listed, request, user, input, administrator⟩

/-- The end of a navigation whose guard got its answer. -/
theorem resume_idle (self : Screen) (answer : Answer) :
    (self.resume backendUrl answer).awaited = none ∧
      ∃ view, (self.resume backendUrl answer).view = some view := by
  have home : (self.goTo backendUrl "/home").awaited = none ∧
      ∃ view, (self.goTo backendUrl "/home").view = some view := by
    rw [goTo_home]
    exact ⟨rfl, _, rfl⟩
  have login : (self.goTo backendUrl "/login").awaited = none ∧
      ∃ view, (self.goTo backendUrl "/login").view = some view := by
    rw [goTo_login]
    exact ⟨rfl, _, rfl⟩
  unfold Screen.resume
  cases answer with
  | error error => exact login
  | ok user =>
      by_cases administrator : user.role = adminRole
      · simp only [adminGuard, if_pos administrator]
        exact ⟨trivial, _, rfl⟩
      · simp only [adminGuard, if_neg administrator]
        exact home

/-- In every run a guard that waits will be answered: its request is on its way, and
whatever answer is delivered to it ends the navigation on some page. -/
theorem awaited_answer_ends_navigation
    (run : Machine.Run (machine backendUrl) Issued (opened token) past screen) {number : Nat}
    (awaited : screen.awaited = some number) :
    ∃ request, screen.tab.waiting request.id = some request ∧ request.userInfo = some number ∧
      ∀ answer, (screen.step backendUrl (.deliver request.id answer)).awaited = none ∧
        ∃ view, (screen.step backendUrl (.deliver request.id answer)).view = some view := by
  obtain ⟨request, member, isNumber⟩ := ((sound_of_run run).awaits number awaited).onItsWay
  obtain ⟨tabPast, tabRun⟩ := tab_run run
  have found := (Tab.identified_of_run tabRun).waiting member
  refine ⟨request, found, isNumber, fun answer => ?_⟩
  simp only [step, found]
  split
  · rw [goTo_login]
    exact ⟨rfl, _, rfl⟩
  · rw [if_pos ⟨by simp [isNumber], isNumber.trans awaited.symm⟩]
    exact resume_idle _ answer

private def waitsForAdmin : List ScreenAction := [.loginSucceeds "token", .navigate "/admin"]

theorem awaited_answer_ends_navigation_refused :
    ∃ request : SentRequest, ∃ view,
      (((machine "").execute [] (opened none) waitsForAdmin).2.step ""
        (.deliver request.id (.error ⟨403, .null⟩))).view = some view := by
  have issued : (machine "").Allows Issued [] (opened none) waitsForAdmin :=
    ⟨by simp [Issued], by simp [Issued], trivial⟩
  have run := (machine "").run_execute .start issued
  have awaited : ((machine "").execute [] (opened none) waitsForAdmin).2.awaited = some 0 := by
    decide
  obtain ⟨request, -, -, ends⟩ := awaited_answer_ends_navigation run awaited
  exact ⟨request, (ends (.error ⟨403, .null⟩)).2⟩

end Runs

end Screen

end DemoBase.Frontend
