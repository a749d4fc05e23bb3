import DemoBase.Foundations.Machine
import DemoBase.Frontend.AuthService

/-!
Owns the session cache of the frontend: `loadCurrentUser`, logins and logouts in
any order with the answers of the `/users/me` requests issued so far. An answer
runs its callbacks even when `clearUser` has forgotten the request, so an answer
that outlives its session writes to the next one.
-/

set_option autoImplicit false

namespace DemoBase.Frontend

open DemoBase.Foundations

/-- `clearedAt` is not a field of the program: it is the number of requests that
were issued before the most recent `clearUser`. -/
structure Browser where
  authService : AuthService
  issued : Nat
  pending : List Nat
  clearedAt : Nat

inductive Action where
  | loadCurrentUser
  | loginSucceeds (accessToken : String)
  | loginFails
  | logout
  | deliver (request : Nat) (answer : Answer)

namespace Browser

/-- A freshly loaded page; a token may be stored from before. -/
def opened (token : Option String) : Browser := ⟨⟨token, UserInfoService.initial⟩, 0, [], 0⟩

variable (self : Browser)

def userInfo : UserInfoService := self.authService.userInfoService

def step : Action → Browser
  | .loadCurrentUser =>
      let loaded := self.userInfo.loadCurrentUser self.issued
      let authService := { self.authService with userInfoService := loaded.1 }
      if loaded.2 then
        { self with authService, issued := self.issued + 1, pending := self.issued :: self.pending }
      else { self with authService }
  | .loginSucceeds accessToken =>
      { self with authService := self.authService.login accessToken, clearedAt := self.issued }
  | .loginFails => { self with authService := self.authService.loginFailed }
  | .logout => { self with authService := self.authService.logout, clearedAt := self.issued }
  | .deliver request answer =>
      if request ∈ self.pending then
        { self with
          authService :=
            { self.authService with userInfoService := self.userInfo.settle answer }
          pending := self.pending.erase request }
      else self

def machine : Machine Browser Action Unit := ⟨fun browser action => (browser.step action, ())⟩

abbrev Answered := Machine.Entry Browser Action Unit

abbrev Past := Machine.History Browser Action Unit

/-- The action answers a request issued before the most recent `clearUser`. -/
def Outlived (action : Action) (answer : Answer) : Prop :=
  ∃ request, action = .deliver request answer ∧ request ∈ self.pending ∧
    request < self.clearedAt

/-- `user` answered a request issued since the most recent `clearUser`. -/
def AnsweredSinceClear (past : Past) (user : UserInfo) : Prop :=
  ∃ answered ∈ past, ∃ request, answered.input = .deliver request (.ok user) ∧
    request ∈ answered.before.pending ∧ self.clearedAt ≤ request

/-- No answer from before the last `clearUser` has changed a field, and the
current user is an answer from since then. -/
structure NoStaleIdentity (past : Past) (state : Browser) : Prop where
  unchanged : ∀ answered ∈ past, ∀ answer, answered.before.Outlived answered.input answer →
    (machine.next answered.before answered.input).userInfo = answered.before.userInfo
  current : ∀ user, state.userInfo.currentUser = some user → state.AnsweredSinceClear past user

/-- Every answer is delivered before the next `clearUser`, or never. -/
def InSession (past : Past) : Prop :=
  ∀ answered ∈ past, ∀ answer, ¬ answered.before.Outlived answered.input answer

/-- Inputs that differ in what an answer contains at most. -/
inductive SameTurn : Action → Action → Prop
  | same (action : Action) : SameTurn action action
  | user (request : Nat) (one other : UserInfo) :
      SameTurn (.deliver request (.ok one)) (.deliver request (.ok other))
  | error (request : Nat) (one other : HttpErrorResponse) :
      SameTurn (.deliver request (.error one)) (.deliver request (.error other))

/-- The part of the cache that the contents of the answers do not reach. -/
structure SameControl (left right : Browser) : Prop where
  request : left.userInfo.request = right.userInfo.request
  issued : left.issued = right.issued
  pending : left.pending = right.pending
  clearedAt : left.clearedAt = right.clearedAt

variable {self}

/-- `loadCurrentUser` writes neither the token nor the current user and clears
nothing. -/
theorem loadCurrentUser_keeps :
    (self.step .loadCurrentUser).authService.tokenStorage = self.authService.tokenStorage ∧
      (self.step .loadCurrentUser).userInfo.currentUser = self.userInfo.currentUser ∧
      (self.step .loadCurrentUser).clearedAt = self.clearedAt := by
  have sameUser : (self.userInfo.loadCurrentUser self.issued).1.currentUser =
      self.userInfo.currentUser := UserInfoService.loadCurrentUser_currentUser self.issued
  unfold step
  by_cases issues : (self.userInfo.loadCurrentUser self.issued).2 = true
  · simp only [issues, if_true]
    exact ⟨trivial, sameUser, trivial⟩
  · simp only [issues]
    exact ⟨rfl, sameUser, rfl⟩

/-- With no request cached, `loadCurrentUser` issues the next one. -/
theorem step_loadCurrentUser_uncached (uncached : self.userInfo.request = none) :
    self.step .loadCurrentUser =
      { self with
        authService :=
          { self.authService with
            userInfoService :=
              { self.userInfo with isLoading := true, error := none, request := some self.issued } }
        issued := self.issued + 1
        pending := self.issued :: self.pending } := by
  simp only [step, UserInfoService.loadCurrentUser, uncached, if_true]

/-- With a request cached it does nothing. -/
theorem step_loadCurrentUser_cached {number : Nat} (cached : self.userInfo.request = some number) :
    self.step .loadCurrentUser = self := by
  obtain ⟨⟨token, userInfo⟩, issued, pending, clearedAt⟩ := self
  have same : userInfo.loadCurrentUser issued = (userInfo, false) := by
    simp only [UserInfoService.loadCurrentUser, show userInfo.request = some number from cached]
  simp only [step, Browser.userInfo, same]
  rfl

/-- A delivered answer issues nothing, clears nothing and leaves the token. -/
theorem deliver_keeps (request : Nat) (answer : Answer) :
    (self.step (.deliver request answer)).authService.tokenStorage =
        self.authService.tokenStorage ∧
      (self.step (.deliver request answer)).issued = self.issued ∧
      (self.step (.deliver request answer)).clearedAt = self.clearedAt := by
  unfold step
  by_cases inFlight : request ∈ self.pending
  · simp only [if_pos inFlight, and_self]
  · simp only [if_neg inFlight, and_self]

theorem pending_deliver (request : Nat) (answer : Answer) :
    (self.step (.deliver request answer)).pending = self.pending.erase request := by
  unfold step
  by_cases inFlight : request ∈ self.pending
  · simp only [if_pos inFlight]
  · simp only [if_neg inFlight, List.erase_of_not_mem inFlight]

theorem userInfo_deliver {request : Nat} (inFlight : request ∈ self.pending) (answer : Answer) :
    (self.step (.deliver request answer)).userInfo = self.userInfo.settle answer := by
  simp only [step, if_pos inFlight, userInfo]

/-- Only a login stores a token. -/
theorem token_step {action : Action} {token : String}
    (stored : (self.step action).authService.tokenStorage = some token) :
    self.authService.tokenStorage = some token ∨ action = .loginSucceeds token := by
  cases action with
  | loadCurrentUser => exact Or.inl (self.loadCurrentUser_keeps.1 ▸ stored)
  | loginSucceeds accessToken =>
      obtain rfl : accessToken = token := Option.some.inj stored
      exact Or.inr rfl
  | loginFails => cases stored
  | logout => cases stored
  | deliver request answer => exact Or.inl ((deliver_keeps request answer).1 ▸ stored)

/-- Only an answer shows a user. -/
theorem currentUser_step {action : Action} {user : UserInfo}
    (shown : (self.step action).userInfo.currentUser = some user) :
    self.userInfo.currentUser = some user ∨ ∃ request, action = .deliver request (.ok user) := by
  cases action with
  | loadCurrentUser => exact Or.inl (self.loadCurrentUser_keeps.2.1 ▸ shown)
  | loginSucceeds accessToken => cases shown
  | loginFails => exact Or.inl shown
  | logout => cases shown
  | deliver request answer =>
      by_cases inFlight : request ∈ self.pending
      · rw [userInfo_deliver inFlight] at shown
        cases answer with
        | error error => exact Or.inl shown
        | ok answered =>
            obtain rfl : answered = user := Option.some.inj shown
            exact Or.inr ⟨request, rfl⟩
      · simp only [step, if_neg inFlight] at shown
        exact Or.inl shown

theorem token_foldl (actions : List Action) {browser : Browser} {token : String}
    (stored : (actions.foldl step browser).authService.tokenStorage = some token) :
    browser.authService.tokenStorage = some token ∨ .loginSucceeds token ∈ actions := by
  induction actions generalizing browser with
  | nil => exact Or.inl stored
  | cons action rest inductionHypothesis =>
      rcases inductionHypothesis stored with after | later
      · rcases token_step after with before | rfl
        · exact Or.inl before
        · exact Or.inr List.mem_cons_self
      · exact Or.inr (List.mem_cons_of_mem _ later)

theorem currentUser_foldl (actions : List Action) {browser : Browser} {user : UserInfo}
    (shown : (actions.foldl step browser).userInfo.currentUser = some user) :
    browser.userInfo.currentUser = some user ∨
      ∃ request, .deliver request (.ok user) ∈ actions := by
  induction actions generalizing browser with
  | nil => exact Or.inl shown
  | cons action rest inductionHypothesis =>
      rcases inductionHypothesis shown with after | ⟨request, later⟩
      · rcases currentUser_step after with before | ⟨request, rfl⟩
        · exact Or.inl before
        · exact Or.inr ⟨request, List.mem_cons_self⟩
      · exact Or.inr ⟨request, List.mem_cons_of_mem _ later⟩

/-- An answer that outlived its session changes nothing exactly when its values
are there already. -/
theorem unchanged_iff {action : Action} {answer : Answer} (outlived : self.Outlived action answer) :
    (machine.next self action).userInfo = self.userInfo ↔ self.userInfo.AlreadyShows answer := by
  obtain ⟨request, rfl, inFlight, -⟩ := outlived
  show (self.step (.deliver request answer)).userInfo = self.userInfo ↔ _
  rw [userInfo_deliver inFlight, UserInfoService.settle_eq_self]

/-- An action within the session keeps the current user an answer since the last
`clearUser`. -/
theorem current_next {past : Past} {action : Action}
    (inSession : ∀ answer, ¬ self.Outlived action answer)
    (current : ∀ user, self.userInfo.currentUser = some user → self.AnsweredSinceClear past user) :
    ∀ user, (machine.next self action).userInfo.currentUser = some user →
      (machine.next self action).AnsweredSinceClear (machine.entry self action :: past) user := by
  intro user shown
  have carried : self.userInfo.currentUser = some user →
      (machine.next self action).clearedAt = self.clearedAt →
      (machine.next self action).AnsweredSinceClear (machine.entry self action :: past) user := by
    intro before sameClear
    rcases current user before with ⟨answered, member, request, input, inFlight, sinceClear⟩
    refine ⟨answered, List.mem_cons_of_mem _ member, request, input, inFlight, ?_⟩
    rw [sameClear]
    exact sinceClear
  cases action with
  | loadCurrentUser =>
      rcases self.loadCurrentUser_keeps with ⟨-, sameUser, sameClear⟩
      exact carried (sameUser ▸ shown) sameClear
  | loginSucceeds accessToken => cases shown
  | loginFails => exact carried shown rfl
  | logout => cases shown
  | deliver request answer =>
      have sameClear : (machine.next self (.deliver request answer)).clearedAt =
          self.clearedAt := (deliver_keeps request answer).2.2
      by_cases inFlight : request ∈ self.pending
      · change (self.step (.deliver request answer)).userInfo.currentUser = some user at shown
        rw [userInfo_deliver inFlight] at shown
        cases answer with
        | error error => exact carried shown sameClear
        | ok answeredUser =>
            obtain rfl : answeredUser = user := Option.some.inj shown
            have sinceClear : self.clearedAt ≤ request := by
              by_contra outlived
              exact inSession (.ok answeredUser)
                ⟨request, rfl, inFlight, Nat.lt_of_not_le outlived⟩
            refine ⟨_, List.mem_cons_self, request, rfl, inFlight, ?_⟩
            rw [sameClear]
            exact sinceClear
      · have stays : (machine.next self (.deliver request answer)).userInfo = self.userInfo := by
          show (self.step (.deliver request answer)).userInfo = self.userInfo
          simp only [step, if_neg inFlight]
        rw [stays] at shown
        exact carried shown sameClear

/-- Every run within its sessions keeps to the present one. -/
theorem noStaleIdentity_of_inSession {token : Option String} {past : Past} {state : Browser}
    (run : Machine.Run machine Machine.unrestricted (opened token) past state)
    (inSession : InSession past) : NoStaleIdentity past state := by
  refine ⟨?_, ?_⟩
  · intro answered member answer outlived
    exact absurd outlived (inSession answered member answer)
  · have demanded := run.strengthen (fun before action => ∀ answer, ¬ before.Outlived action answer)
      inSession
    apply demanded.invariant
    · intro user shown
      cases shown
    · intro earlier browser action before allowed current
      exact current_next allowed.2 current

/-! ### Schedules -/

/-- Whatever the answers contain, the same requests are issued, cached and in flight. -/
theorem SameControl.next {left right : Browser} (control : SameControl left right)
    {one other : Action} (turn : SameTurn one other) :
    SameControl (machine.next left one) (machine.next right other) := by
  obtain ⟨request, issued, pending, clearedAt⟩ := control
  have delivered : ∀ {number : Nat} {leftAnswer rightAnswer : Answer},
      (left.userInfo.settle leftAnswer).request = (right.userInfo.settle rightAnswer).request →
        SameControl (left.step (.deliver number leftAnswer))
          (right.step (.deliver number rightAnswer)) := by
    intro number leftAnswer rightAnswer settled
    rcases @deliver_keeps left number leftAnswer with ⟨-, leftIssued, leftCleared⟩
    rcases @deliver_keeps right number rightAnswer with ⟨-, rightIssued, rightCleared⟩
    refine ⟨?_, ?_, ?_, ?_⟩
    · by_cases inFlight : number ∈ left.pending
      · rw [userInfo_deliver inFlight, userInfo_deliver (pending ▸ inFlight), settled]
      · have notRight : number ∉ right.pending := pending ▸ inFlight
        simp only [step, if_neg inFlight, if_neg notRight]
        exact request
    · rw [leftIssued, rightIssued, issued]
    · rw [pending_deliver, pending_deliver, pending]
    · rw [leftCleared, rightCleared, clearedAt]
  cases turn with
  | same =>
      cases one with
      | loadCurrentUser =>
          show SameControl (left.step .loadCurrentUser) (right.step .loadCurrentUser)
          cases cached : left.userInfo.request with
          | none =>
              rw [step_loadCurrentUser_uncached cached,
                step_loadCurrentUser_uncached (request ▸ cached)]
              exact ⟨congrArg some issued, congrArg (· + 1) issued, by rw [issued, pending],
                clearedAt⟩
          | some number =>
              rw [step_loadCurrentUser_cached cached,
                step_loadCurrentUser_cached (request ▸ cached)]
              exact ⟨request, issued, pending, clearedAt⟩
      | loginSucceeds accessToken => exact ⟨rfl, issued, pending, issued⟩
      | loginFails => exact ⟨request, issued, pending, clearedAt⟩
      | logout => exact ⟨rfl, issued, pending, issued⟩
      | deliver number answer =>
          apply delivered
          cases answer with
          | ok user => exact request
          | error error => rfl
  | user number one other => exact delivered request
  | error number one other => exact delivered rfl

/-- Runs of one schedule deliver answers to the same requests at the same moments. -/
theorem InSession.of_sameSchedule {token : Option String} {past other : Past}
    {state reached : Browser}
    (run : Machine.Run machine Machine.unrestricted (opened token) past state)
    (again : Machine.Run machine Machine.unrestricted (opened token) other reached)
    (schedule : Machine.SameSchedule SameTurn past other) (inSession : InSession past) :
    InSession other := by
  have same : SameControl (opened token) (opened token) := ⟨rfl, rfl, rfl, rfl⟩
  obtain ⟨moments, -⟩ := run.lockstep same
    (fun left right one another (control : SameControl left right) turn => control.next turn)
    again schedule
  intro answered member answer outlived
  obtain ⟨request, input, inFlight, stale⟩ := outlived
  obtain ⟨first, firstMember, turn, control⟩ := moments answered member
  have moved : request ∈ first.before.pending ∧ request < first.before.clearedAt := by
    rw [control.pending, control.clearedAt]
    exact ⟨inFlight, stale⟩
  rw [input] at turn
  generalize firstInput : first.input = action at turn
  cases turn with
  | same => exact inSession first firstMember answer ⟨request, firstInput, moved⟩
  | user _ user => exact inSession first firstMember (.ok user) ⟨request, firstInput, moved⟩
  | error _ error => exact inSession first firstMember (.error error) ⟨request, firstInput, moved⟩

/-- An answer that outlived its session can contain something that changes a field. -/
theorem exists_sameTurn_changes {action : Action} {answer : Answer}
    (outlived : self.Outlived action answer) :
    ∃ other otherAnswer, SameTurn action other ∧ self.Outlived other otherAnswer ∧
      (machine.next self other).userInfo ≠ self.userInfo := by
  obtain ⟨request, rfl, inFlight, stale⟩ := outlived
  cases answer with
  | ok user =>
      obtain ⟨other, changes⟩ := self.userInfo.exists_not_alreadyShows_ok
      have still : self.Outlived (.deliver request (.ok other)) (.ok other) :=
        ⟨request, rfl, inFlight, stale⟩
      exact ⟨_, _, .user request user other, still, mt (unchanged_iff still).mp changes⟩
  | error error =>
      obtain ⟨other, changes⟩ := self.userInfo.exists_not_alreadyShows_error
      have still : self.Outlived (.deliver request (.error other)) (.error other) :=
        ⟨request, rfl, inFlight, stale⟩
      exact ⟨_, _, .error request error other, still, mt (unchanged_iff still).mp changes⟩

/-- A schedule keeps the cache to the present session, whatever the answers contain,
exactly when it delivers no answer to a request issued before the last `clearUser`. -/
theorem noStaleIdentity_iff {token : Option String} {past : Past} {state : Browser}
    (run : Machine.Run machine Machine.unrestricted (opened token) past state) :
    (∀ other reached, Machine.Run machine Machine.unrestricted (opened token) other reached →
        Machine.SameSchedule SameTurn past other → NoStaleIdentity other reached) ↔
      InSession past := by
  constructor
  · intro always answered member answer outlived
    obtain ⟨action, otherAnswer, turn, still, changes⟩ := exists_sameTurn_changes outlived
    obtain ⟨other, reached, again, schedule, varied⟩ := run.vary SameTurn.same member turn
    exact changes ((always other reached again schedule).unchanged _ varied otherAnswer still)
  · intro inSession other reached again schedule
    exact noStaleIdentity_of_inSession again (inSession.of_sameSchedule run again schedule)

private def adminUser : UserInfo := ⟨"8d8c45ab", "admin@example.com", true, adminRole⟩

private def signedIn : List Action := [.loadCurrentUser, .deliver 0 (.ok adminUser)]

theorem noStaleIdentity_signedIn :
    NoStaleIdentity (machine.execute [] (opened (some "first")) signedIn).1
      (machine.execute [] (opened (some "first")) signedIn).2 := by
  have run := machine.run_unrestricted (opened (some "first")) signedIn
  refine (noStaleIdentity_iff run).mpr ?_ _ _ run (.refl SameTurn.same _)
  intro answered member answer outlived
  obtain ⟨request, -, -, stale⟩ := outlived
  have neverCleared : ∀ answered ∈ (machine.execute [] (opened (some "first")) signedIn).1,
      answered.before.clearedAt = 0 := by
    decide
  rw [neverCleared answered member] at stale
  omega

private def switchedAccount : List Action :=
  [.loadCurrentUser, .loginSucceeds "second", .deliver 0 (.ok adminUser)]

/-- The answer the first account waited for arrives after the second has signed
in: the second is shown as the first. -/
theorem noStaleIdentity_fails_on_late_answer :
    ∃ past state, Machine.Run machine Machine.unrestricted (opened (some "first")) past state ∧
      state.authService.tokenStorage = some "second" ∧
      state.userInfo.currentUser = some adminUser ∧ ¬NoStaleIdentity past state := by
  have run := machine.run_unrestricted (opened (some "first")) switchedAccount
  refine ⟨_, _, run, rfl, rfl, ?_⟩
  intro noStale
  have unchanged := noStale.unchanged _ List.mem_cons_self (.ok adminUser)
    ⟨0, rfl, by decide, by decide⟩
  cases unchanged

end Browser

end DemoBase.Frontend
