import DemoBase.Frontend.HeaderRefetch

/-!
Owns the route table of the frontend, the guards of its pages and the page a tab shows.
The router starts the guards of a page in their order, and none after one that refuses at
once; a page it shows already is entered without asking them again, and a newer navigation
cancels one whose guard still waits. A page that waits for no guard is taken to be there
at once.
-/

set_option autoImplicit false

namespace DemoBase.Frontend

open DemoBase.Foundations

/-! ### Routes -/

/-- The view components of the routes. -/
inductive View where
  | login
  | register
  | home
  | profile
  | admin
deriving DecidableEq, Repr

/-- The functions of `canActivate`. -/
inductive Guard where
  | authGuard
  | adminGuard
deriving DecidableEq, Repr

inductive Target where
  | redirectTo (path : String)
  | component (view : View) (canActivate : List Guard)
deriving DecidableEq, Repr

structure Route where
  path : String
  target : Target
deriving DecidableEq, Repr

/-- The `routes` of `app.routes.ts`. -/
def routes : List Route :=
  [⟨"", .redirectTo "home"⟩,
    ⟨"login", .component .login []⟩,
    ⟨"register", .component .register []⟩,
    ⟨"home", .component .home [.authGuard]⟩,
    ⟨"profile", .component .profile [.authGuard]⟩,
    ⟨"admin", .component .admin [.authGuard, .adminGuard]⟩,
    ⟨"**", .redirectTo "home"⟩]

/-- A route without children matches a URL as a whole, and `**` matches every one. -/
def Route.Matches (route : Route) (url : String) : Prop :=
  route.path = "**" ∨ url = "/" ++ route.path

instance decidableMatches (route : Route) (url : String) : Decidable (route.Matches url) :=
  inferInstanceAs (Decidable (_ ∨ _))

/-- The component and the guards of the first route that matches, after one redirect. -/
def recognize (url : String) : Option (View × List Guard) :=
  match routes.find? fun route => route.Matches url with
  | none => none
  | some ⟨_, .component view canActivate⟩ => some (view, canActivate)
  | some ⟨_, .redirectTo path⟩ =>
      match routes.find? fun route => route.Matches ("/" ++ path) with
      | some ⟨_, .component view canActivate⟩ => some (view, canActivate)
      | _ => none

/-- The guards the table names for a page. -/
def View.canActivate : View → List Guard
  | .login => []
  | .register => []
  | .home => [.authGuard]
  | .profile => [.authGuard]
  | .admin => [.authGuard, .adminGuard]

/-- Every URL leads to a page behind its guards. -/
theorem recognize_total (url : String) : ∃ view : View,
    recognize url = some (view, view.canActivate) := by
  have redirected : ∀ path, routes.find? (fun route => route.Matches url) =
      some ⟨path, .redirectTo "home"⟩ → recognize url = some (.home, [.authGuard]) := by
    intro path found
    unfold recognize
    rw [found]
    rfl
  have found : routes.find? (fun route => decide (route.Matches url)) ≠ none := by
    intro missing
    have unmatched := List.find?_eq_none.mp missing ⟨"**", .redirectTo "home"⟩ (by decide)
    exact unmatched (decide_eq_true (Or.inl rfl))
  obtain ⟨route, isRoute⟩ := Option.ne_none_iff_exists'.mp found
  have listed := List.mem_of_find?_eq_some isRoute
  simp only [routes, List.mem_cons, List.not_mem_nil, or_false] at listed
  rcases listed with rfl | rfl | rfl | rfl | rfl | rfl | rfl
  · exact ⟨.home, redirected _ isRoute⟩
  · exact ⟨.login, by rw [recognize, isRoute]; rfl⟩
  · exact ⟨.register, by rw [recognize, isRoute]; rfl⟩
  · exact ⟨.home, by rw [recognize, isRoute]; rfl⟩
  · exact ⟨.profile, by rw [recognize, isRoute]; rfl⟩
  · exact ⟨.admin, by rw [recognize, isRoute]; rfl⟩
  · exact ⟨.home, redirected _ isRoute⟩

/-! ### Guards and navigations -/

def authGuard (authService : AuthService) : GuardResult :=
  if authService.isAuthenticated then .activate else .urlTree "/login"

/-- A tab with the page it shows. `awaited` is the request whose answer `adminGuard`
waits for, `replayed` what `shareReplay` holds for the requests that succeeded. -/
structure Screen where
  tab : Tab
  view : Option View
  awaited : Option Nat
  replayed : List (SentRequest × UserInfo)

/-- What the guards of a page have come to. -/
inductive Verdict where
  | decided (result : GuardResult)
  | waits (request : Option Nat)

/-- `navigate` is a link, the address bar within the application or its history.
`loadCurrentUser` is the effect of the header or the constructor of the profile page. -/
inductive ScreenAction where
  | navigate (url : String)
  | loadCurrentUser
  | send (url : String)
  | loginSucceeds (accessToken : String)
  | loginFails
  | logout
  | deliver (id : Nat) (answer : Answer)

namespace Screen

/-- A page load before its first navigation. -/
def opened (token : Option String) : Screen := ⟨.opened token, none, none, []⟩

variable (backendUrl : String) (self : Screen)

def isAuthenticated : Bool := self.tab.authService.isAuthenticated

/-- What a subscriber of an answered request is given at once. -/
def replay (request : Option Nat) : Option UserInfo :=
  match request with
  | none => none
  | some number => (self.replayed.find? fun held => held.1.userInfo = some number).map Prod.snd

/-- The tab after an action, without what the router does. -/
def act (action : TabAction) : Screen := { self with tab := self.tab.step backendUrl action }

/-- `adminGuard` asks for the user; one that was answered before decides at once. -/
def startAdminGuard : Screen × Verdict :=
  let loading := self.act backendUrl .loadCurrentUser
  match loading.replay loading.tab.browser.userInfo.request with
  | none => (loading, .waits loading.tab.browser.userInfo.request)
  | some user => (loading, .decided (adminGuard (.ok user)))

/-- The router starts these guards; no guard of a route comes after `adminGuard`. -/
def runGuards : List Guard → Screen × Verdict
  | [] => (self, .decided .activate)
  | .authGuard :: rest =>
      match authGuard self.tab.authService with
      | .activate => runGuards rest
      | .urlTree url => (self, .decided (.urlTree url))
  | .adminGuard :: _ => self.startAdminGuard backendUrl

/-- A navigation with the redirects of its guards, of which there are at most so many. -/
def navigate (self : Screen) (url : String) : Nat → Screen
  | 0 => self
  | redirects + 1 =>
      match recognize url with
      | none => self
      | some (view, canActivate) =>
          if self.view = some view then { self with awaited := none }
          else
            match self.runGuards backendUrl canActivate with
            | (started, .waits request) => { started with awaited := request }
            | (started, .decided .activate) => { started with view := some view, awaited := none }
            | (started, .decided (.urlTree other)) => started.navigate other redirects

/-- `/admin` may redirect to `/home`, and that to `/login`. -/
def goTo (url : String) : Screen := self.navigate backendUrl url 3

/-- `adminGuard` got the answer it waited for. -/
def resume (answer : Answer) : Screen :=
  match adminGuard answer with
  | .activate => { self with view := some .admin, awaited := none }
  | .urlTree url => self.goTo backendUrl url

/-- The answer to a request reaches `shareReplay` when it is one of `UserInfoService`. -/
def remember (request : SentRequest) (answer : Answer) : Screen :=
  match answer, request.userInfo with
  | .ok user, some _ => { self with replayed := (request, user) :: self.replayed }
  | _, _ => self

def step : ScreenAction → Screen
  | .navigate url => self.goTo backendUrl url
  | .loadCurrentUser => self.act backendUrl .loadCurrentUser
  | .send url => self.act backendUrl (.send url)
  | .loginSucceeds accessToken =>
      (self.act backendUrl (.loginSucceeds accessToken)).goTo backendUrl "/home"
  | .loginFails => self.act backendUrl .loginFails
  | .logout => (self.act backendUrl .logout).goTo backendUrl "/login"
  | .deliver id answer =>
      match self.tab.waiting id with
      | none => self
      | some request =>
          let delivered := (self.act backendUrl (.deliver id answer)).remember request answer
          if logsOut request.url answer then delivered.goTo backendUrl "/login"
          else if request.userInfo ≠ none ∧ request.userInfo = self.awaited then
            delivered.resume backendUrl answer
          else delivered

def machine : Machine Screen ScreenAction Unit :=
  ⟨fun screen action => (screen.step backendUrl action, ())⟩

abbrev Answered := Machine.Entry Screen ScreenAction Unit

abbrev Past := Machine.History Screen ScreenAction Unit

/-! ### What a navigation comes to -/

/-- The end of a navigation whose guards have been started: the page stays or is entered,
or `adminGuard` waits. -/
inductive Settles (started : Screen) : Screen → Prop
  | stays : Settles started { started with awaited := none }
  | enters (view : View) (session : view.canActivate ≠ [] → started.isAuthenticated = true)
      (administrator : view = .admin → ∃ user,
        started.replay started.tab.browser.userInfo.request = some user ∧ user.role = adminRole) :
      Settles started { started with view := some view, awaited := none }
  | waits (session : started.isAuthenticated = true)
      (unanswered : started.replay started.tab.browser.userInfo.request = none) :
      Settles started { started with awaited := started.tab.browser.userInfo.request }

variable {backendUrl self}

theorem isAuthenticated_of_token {before after : Screen}
    (same : after.tab.authService.tokenStorage = before.tab.authService.tokenStorage) :
    after.isAuthenticated = before.isAuthenticated := by
  simp only [isAuthenticated, AuthService.isAuthenticated, same]

theorem isAuthenticated_load :
    (self.act backendUrl .loadCurrentUser).isAuthenticated = self.isAuthenticated :=
  isAuthenticated_of_token Browser.loadCurrentUser_keeps.1

/-- The login page is open to everybody. -/
theorem navigate_login (self : Screen) (redirects : Nat) :
    self.navigate backendUrl "/login" (redirects + 1) =
      { self with view := some .login, awaited := none } := by
  have recognized : recognize "/login" = some (.login, []) := by decide
  unfold navigate
  rw [recognized]
  dsimp only
  by_cases there : self.view = some .login
  · rw [if_pos there, ← there]
  · rw [if_neg there]
    rfl

/-- Whoever is signed in passes the `authGuard`. -/
theorem runGuards_signedIn (session : self.isAuthenticated = true) (rest : List Guard) :
    self.runGuards backendUrl (.authGuard :: rest) = self.runGuards backendUrl rest := by
  have signedIn : self.tab.authService.isAuthenticated = true := session
  simp only [runGuards, authGuard, if_pos signedIn]

theorem runGuards_signedOut (signedOut : ¬ self.isAuthenticated = true) (rest : List Guard) :
    self.runGuards backendUrl (.authGuard :: rest) = (self, .decided (.urlTree "/login")) := by
  have nobody : ¬ self.tab.authService.isAuthenticated = true := signedOut
  simp only [runGuards, authGuard, if_neg nobody]

/-- A page behind the `authGuard` alone. -/
theorem navigate_session {url : String} {view : View}
    (recognized : recognize url = some (view, [.authGuard]))
    (notAdmin : view ≠ .admin) (redirects : Nat) :
    Settles self (self.navigate backendUrl url (redirects + 2)) := by
  unfold navigate
  rw [recognized]
  dsimp only
  by_cases there : self.view = some view
  · rw [if_pos there]
    exact .stays
  · rw [if_neg there]
    by_cases session : self.isAuthenticated = true
    · rw [runGuards_signedIn session]
      exact .enters view (fun _ => session) fun isAdmin => absurd isAdmin notAdmin
    · rw [runGuards_signedOut session]
      dsimp only
      rw [navigate_login]
      exact .enters .login (fun guarded => absurd rfl guarded) nofun

theorem startAdminGuard_cases (backendUrl : String) (self : Screen) :
    ((self.act backendUrl .loadCurrentUser).replay
          (self.act backendUrl .loadCurrentUser).tab.browser.userInfo.request = none ∧
        self.startAdminGuard backendUrl = (self.act backendUrl .loadCurrentUser,
          .waits (self.act backendUrl .loadCurrentUser).tab.browser.userInfo.request)) ∨
      ∃ user, (self.act backendUrl .loadCurrentUser).replay
          (self.act backendUrl .loadCurrentUser).tab.browser.userInfo.request = some user ∧
        self.startAdminGuard backendUrl = (self.act backendUrl .loadCurrentUser,
          .decided (adminGuard (.ok user))) := by
  unfold startAdminGuard
  cases held : (self.act backendUrl .loadCurrentUser).replay
    (self.act backendUrl .loadCurrentUser).tab.browser.userInfo.request with
  | none => exact Or.inl ⟨rfl, by simp only [held]⟩
  | some user => exact Or.inr ⟨user, rfl, by simp only [held]⟩

/-- Behind both guards the user is asked for by whoever is signed in. -/
theorem navigate_admin {url : String}
    (recognized : recognize url = some (.admin, [.authGuard, .adminGuard])) (redirects : Nat) :
    ∃ started, (started = self ∨ started = self.act backendUrl .loadCurrentUser) ∧
      Settles started (self.navigate backendUrl url (redirects + 3)) := by
  unfold navigate
  rw [recognized]
  dsimp only
  by_cases there : self.view = some .admin
  · rw [if_pos there]
    exact ⟨self, Or.inl rfl, .stays⟩
  · rw [if_neg there]
    have asked : (self.act backendUrl .loadCurrentUser).isAuthenticated = self.isAuthenticated :=
      isAuthenticated_load
    by_cases session : self.isAuthenticated = true
    · rw [runGuards_signedIn session, runGuards]
      refine ⟨_, Or.inr rfl, ?_⟩
      rcases startAdminGuard_cases backendUrl self with
        ⟨unanswered, verdict⟩ | ⟨user, held, verdict⟩
      · rw [verdict]
        exact .waits (asked.trans session) unanswered
      · rw [verdict]
        by_cases isAdmin : user.role = adminRole
        · simp only [adminGuard, if_pos isAdmin]
          exact .enters .admin (fun _ => asked.trans session) fun _ => ⟨user, held, isAdmin⟩
        · simp only [adminGuard, if_neg isAdmin]
          exact navigate_session (by decide : recognize "/home" = some (.home, _)) (by decide) _
    · rw [runGuards_signedOut session]
      dsimp only
      rw [navigate_login]
      exact ⟨self, Or.inl rfl, .enters .login (fun guarded => absurd rfl guarded) nofun⟩

/-- A page open to everybody. -/
theorem navigate_open {url : String} {view : View} (recognized : recognize url = some (view, []))
    (isOpen : view.canActivate = []) (redirects : Nat) :
    Settles self (self.navigate backendUrl url (redirects + 1)) := by
  unfold navigate
  rw [recognized]
  dsimp only
  by_cases there : self.view = some view
  · rw [if_pos there]
    exact .stays
  · rw [if_neg there]
    exact .enters view (fun guarded => absurd isOpen guarded) fun isAdmin => by
      rw [isAdmin] at isOpen
      cases isOpen

/-- Whatever its URL, a navigation comes to an end within its redirects, and has asked for
the user at most. -/
theorem goTo_settles (backendUrl : String) (self : Screen) (url : String) :
    ∃ started, (started = self ∨ started = self.act backendUrl .loadCurrentUser) ∧
      Settles started (self.goTo backendUrl url) := by
  obtain ⟨view, recognized⟩ := recognize_total url
  unfold goTo
  cases view with
  | login => exact ⟨self, Or.inl rfl, navigate_open recognized rfl 2⟩
  | register => exact ⟨self, Or.inl rfl, navigate_open recognized rfl 2⟩
  | home => exact ⟨self, Or.inl rfl, navigate_session recognized (by decide) 1⟩
  | profile => exact ⟨self, Or.inl rfl, navigate_session recognized (by decide) 1⟩
  | admin => exact navigate_admin recognized 0

theorem goTo_login (self : Screen) :
    self.goTo backendUrl "/login" = { self with view := some .login, awaited := none } :=
  navigate_login self 2

/-- The home page is entered by whoever is signed in or there already. -/
theorem goTo_home (self : Screen) :
    self.goTo backendUrl "/home" = { self with
      view := some (if self.view = some .home ∨ self.isAuthenticated = true then .home else .login)
      awaited := none } := by
  have recognized : recognize "/home" = some (.home, [.authGuard]) := by decide
  unfold goTo navigate
  rw [recognized]
  dsimp only
  by_cases there : self.view = some .home
  · rw [if_pos there, if_pos (Or.inl there), there]
  · rw [if_neg there]
    by_cases session : self.isAuthenticated = true
    · rw [runGuards_signedIn session, if_pos (Or.inr session)]
      rfl
    · rw [runGuards_signedOut session, if_neg (not_or.mpr ⟨there, session⟩)]
      exact navigate_login self 1

end Screen

end DemoBase.Frontend
