import DemoBase.Foundations.Dict
import DemoBase.Foundations.Machine
import DemoBase.Frontend.UserInfoService

/-!
Owns `loadCurrentUser` with its callers: the shared observable of each request, who
is subscribed to it, and who has been told its result. As long as `clearUser` waits
for the request in flight, the service is a memo of the current user.
-/

set_option autoImplicit false

namespace DemoBase.Frontend

open DemoBase.Foundations DemoBase.Foundations.Dict

/-- The service and the observables made by `shareReplay`, numbered in the order they
were created. Callers are numbered in the order of their calls. -/
structure SharedUserInfo where
  service : UserInfoService
  created : Nat
  /-- Requests sent to the server. -/
  sent : Nat
  /-- Observables connected to a request that is not answered. -/
  inFlight : List Nat
  /-- What the observables replay. -/
  replays : List (Nat × UserInfo)
  calls : Nat
  /-- Callers subscribed to an observable that has nothing to tell yet. -/
  waiting : List (Nat × Nat)
  /-- Callers whose observable is going through its subscribers. -/
  notifying : List (Nat × Answer)
  received : List (Nat × Answer)

inductive SharedAction where
  | loadCurrentUser
  | clearUser
  | settle (request : Nat) (answer : Answer)
  | notify

namespace SharedUserInfo

def initial : SharedUserInfo := ⟨.initial, 0, 0, [], [], 0, [], [], []⟩

variable (self : SharedUserInfo)

/-- The observable `loadCurrentUser` returns. -/
def returned : Nat := self.service.request.getD self.created

/-- The next caller subscribes. An observable that has a user replays it; one that
has neither a user nor a connection sends its request. -/
def subscribe (request : Nat) : SharedUserInfo :=
  match self.replays.lookup request with
  | some user =>
      { self with
        calls := self.calls + 1
        received := self.received ++ [(self.calls, .ok user)] }
  | none =>
      let connected := request ∈ self.inFlight
      { self with
        calls := self.calls + 1
        sent := if connected then self.sent else self.sent + 1
        inFlight := if connected then self.inFlight else request :: self.inFlight
        waiting := self.waiting ++ [(self.calls, request)] }

/-- `loadCurrentUser().subscribe(...)`. -/
def loadCurrentUser : SharedUserInfo :=
  let loaded := self.service.loadCurrentUser self.created
  subscribe
    { self with
      service := loaded.1
      created := if loaded.2 then self.created + 1 else self.created }
    self.returned

/-- A request is answered: its callbacks write the signals, a failure resets the
observable, and only then the subscribers are told. -/
def settle (request : Nat) (answer : Answer) : SharedUserInfo :=
  { self with
    service := self.service.settle answer
    inFlight := self.inFlight.erase request
    replays :=
      match answer with
      | .ok user => (request, user) :: self.replays
      | .error _ => self.replays
    waiting := self.waiting.filter fun waiter => waiter.2 ≠ request
    notifying := self.notifying ++
      (self.waiting.filter fun waiter => waiter.2 = request).map fun waiter => (waiter.1, answer) }

/-- The next subscriber is told; its callback may call the service again. -/
def notify : SharedUserInfo :=
  match self.notifying with
  | [] => self
  | told :: rest => { self with notifying := rest, received := self.received ++ [told] }

def step : SharedAction → SharedUserInfo
  | .loadCurrentUser => self.loadCurrentUser
  | .clearUser => { self with service := self.service.clearUser }
  | .settle request answer => self.settle request answer
  | .notify => self.notify

def machine : Machine SharedUserInfo SharedAction Unit :=
  ⟨fun shared action => (shared.step action, ())⟩

abbrev Past := Machine.History SharedUserInfo SharedAction Unit

/-- The server answers requests in flight, and `clearUser` waits for them. -/
def Orderly : Machine.Environment SharedUserInfo SharedAction Unit :=
  fun _ shared action =>
    match action with
    | .clearUser => shared.inFlight = []
    | .settle request _ => request ∈ shared.inFlight
    | _ => True

end SharedUserInfo

/-! ### The memo -/

/-- What the service is for: one value, loaded when it is missing. -/
inductive Memo where
  | idle
  | loading
  | loaded (user : UserInfo)
  | failed (error : HttpErrorResponse)
deriving DecidableEq, Repr

def Memo.next (memo : Memo) : SharedAction → Memo
  | .loadCurrentUser =>
      match memo with
      | .loaded user => .loaded user
      | _ => .loading
  | .clearUser => .idle
  | .settle _ (.ok user) => .loaded user
  | .settle _ (.error error) => .failed error
  | .notify => memo

/-- The number of requests a call sends. -/
def Memo.sends : Memo → Nat
  | .idle => 1
  | .loading => 0
  | .loaded _ => 0
  | .failed _ => 1

theorem Memo.sends_le_one (memo : Memo) : memo.sends ≤ 1 := by
  cases memo with
  | idle => exact Nat.le_refl 1
  | loading => exact Nat.zero_le 1
  | loaded user => exact Nat.zero_le 1
  | failed error => exact Nat.le_refl 1

/-- The signals of the service in each state of the memo. -/
def Memo.Shown (memo : Memo) (service : UserInfoService) : Prop :=
  match memo with
  | .idle => service.currentUser = none ∧ service.isLoading = false ∧ service.error = none
  | .loading => service.currentUser = none ∧ service.isLoading = true ∧ service.error = none
  | .loaded user =>
      service.currentUser = some user ∧ service.isLoading = false ∧ service.error = none
  | .failed error =>
      service.currentUser = none ∧ service.isLoading = false ∧ service.error = some error

namespace SharedUserInfo

/-- The memo after the same actions. -/
def memoAfter : Past → Memo
  | [] => .idle
  | answered :: older => (memoAfter older).next answered.input

/-- A request was answered with this. -/
def Settled (past : Past) (request : Nat) (answer : Answer) : Prop :=
  ∃ answered ∈ past, answered.input = .settle request answer

/-- A request has completed successfully since the most recent `clearUser`. -/
def CompletedSinceClear : Past → Prop
  | [] => False
  | answered :: older =>
      match answered.input with
      | .clearUser => False
      | .settle _ (.ok _) => True
      | _ => CompletedSinceClear older

/-- Each caller waits for the request its call found or started, or is told its
result. -/
def Told (past : Past) (shared : SharedUserInfo) : Prop :=
  ∀ called ∈ past, called.input = .loadCurrentUser →
    (called.before.calls, called.before.returned) ∈ shared.waiting ∧
        called.before.returned ∈ shared.inFlight ∨
      ∃ answer, Settled past called.before.returned answer ∧
        (called.before.calls, answer) ∈ shared.notifying ++ shared.received

/-- Nobody is told twice, or told and left waiting. -/
def ToldOnce (shared : SharedUserInfo) : Prop :=
  (shared.waiting.map Prod.fst ++ shared.notifying.map Prod.fst ++
    shared.received.map Prod.fst).Perm (List.range shared.calls)

/-- The run so far is one of a memo shared by all callers. -/
structure FaithfulMemo (past : Past) (shared : SharedUserInfo) : Prop where
  oneInFlight : shared.inFlight.length ≤ 1
  signals : (memoAfter past).Shown shared.service
  issues : shared.inFlight = [] ∧ ¬ CompletedSinceClear past →
    (shared.step .loadCurrentUser).sent = shared.sent + 1
  shares : ¬ (shared.inFlight = [] ∧ ¬ CompletedSinceClear past) →
    (shared.step .loadCurrentUser).sent = shared.sent
  told : Told past shared
  toldOnce : ToldOnce shared
  oneResult : ∀ request answer other, Settled past request answer →
    Settled past request other → other = answer

/-! ### Calls -/

variable {self : SharedUserInfo} {request : Nat}

/-- With no request cached a call creates an observable and sends its request. -/
theorem loadCurrentUser_starts (uncached : self.service.request = none)
    (unknown : self.replays.lookup self.created = none) (idle : self.inFlight = []) :
    self.loadCurrentUser =
      { self with
        service :=
          { self.service with isLoading := true, error := none, request := some self.created }
        created := self.created + 1
        sent := self.sent + 1
        inFlight := [self.created]
        calls := self.calls + 1
        waiting := self.waiting ++ [(self.calls, self.created)] } := by
  simp [loadCurrentUser, UserInfoService.loadCurrentUser, returned, subscribe, uncached, unknown,
    idle]

/-- A call that finds its request in flight waits with the others. -/
theorem loadCurrentUser_joins (cached : self.service.request = some request)
    (unanswered : self.replays.lookup request = none) (flying : request ∈ self.inFlight) :
    self.loadCurrentUser =
      { self with
        calls := self.calls + 1
        waiting := self.waiting ++ [(self.calls, request)] } := by
  simp [loadCurrentUser, UserInfoService.loadCurrentUser, returned, subscribe, cached, unanswered,
    flying]

/-- A call that finds its request completed is told at once. -/
theorem loadCurrentUser_replays {user : UserInfo} (cached : self.service.request = some request)
    (completed : self.replays.lookup request = some user) :
    self.loadCurrentUser =
      { self with
        calls := self.calls + 1
        received := self.received ++ [(self.calls, .ok user)] } := by
  simp [loadCurrentUser, UserInfoService.loadCurrentUser, returned, subscribe, cached, completed]

/-! ### The memo -/

/-- How the service keeps the memo. -/
def Represents (shared : SharedUserInfo) : Memo → Prop
  | .idle => shared.service = ⟨none, none, false, none⟩ ∧ shared.inFlight = []
  | .loading => ∃ request, shared.service = ⟨some request, none, true, none⟩ ∧
      shared.inFlight = [request] ∧ request < shared.created ∧
        shared.replays.lookup request = none
  | .loaded user => ∃ request, shared.service = ⟨some request, some user, false, none⟩ ∧
      shared.inFlight = [] ∧ shared.replays.lookup request = some user
  | .failed error => shared.service = ⟨none, none, false, some error⟩ ∧ shared.inFlight = []

variable {shared : SharedUserInfo} {memo : Memo} {past : Past}

theorem Represents.shown (represents : shared.Represents memo) : memo.Shown shared.service := by
  cases memo with
  | idle =>
      rw [Memo.Shown, represents.1]
      exact ⟨rfl, rfl, rfl⟩
  | loading =>
      obtain ⟨request, service, -⟩ := represents
      rw [Memo.Shown, service]
      exact ⟨rfl, rfl, rfl⟩
  | loaded user =>
      obtain ⟨request, service, -⟩ := represents
      rw [Memo.Shown, service]
      exact ⟨rfl, rfl, rfl⟩
  | failed error =>
      rw [Memo.Shown, represents.1]
      exact ⟨rfl, rfl, rfl⟩

/-- A request is in flight exactly while the memo loads, and it is the only one. -/
theorem Represents.flights (represents : shared.Represents memo) :
    memo = .loading ∧ (∃ request, shared.inFlight = [request]) ∨
      memo ≠ .loading ∧ shared.inFlight = [] := by
  cases memo with
  | idle => exact Or.inr ⟨Memo.noConfusion, represents.2⟩
  | loading =>
      obtain ⟨request, -, flying, -⟩ := represents
      exact Or.inl ⟨rfl, request, flying⟩
  | loaded user =>
      obtain ⟨request, -, idle, -⟩ := represents
      exact Or.inr ⟨Memo.noConfusion, idle⟩
  | failed error => exact Or.inr ⟨Memo.noConfusion, represents.2⟩

theorem Represents.oneInFlight (represents : shared.Represents memo) :
    shared.inFlight.length ≤ 1 := by
  rcases represents.flights with ⟨-, request, flying⟩ | ⟨-, idle⟩
  · rw [flying]
    exact Nat.le_refl 1
  · rw [idle]
    exact Nat.zero_le 1

theorem Represents.inFlight_iff (represents : shared.Represents memo) :
    shared.inFlight = [] ↔ memo ≠ .loading := by
  rcases represents.flights with ⟨loading, request, flying⟩ | ⟨notLoading, idle⟩
  · simp [loading, flying]
  · simp [notLoading, idle]

/-- What every run keeps. -/
structure Invariant (past : Past) (shared : SharedUserInfo) : Prop where
  represents : shared.Represents (memoAfter past)
  completed : CompletedSinceClear past ↔ ∃ user, memoAfter past = .loaded user
  replayed : ∀ request user, shared.replays.lookup request = some user →
    Settled past request (.ok user)
  settled : ∀ request answer, Settled past request answer →
    request < shared.created ∧ request ∉ shared.inFlight ∧
      ∀ other, Settled past request other → other = answer
  told : Told past shared
  toldOnce : ToldOnce shared

theorem settled_cons {answered : Machine.Entry SharedUserInfo SharedAction Unit}
    {answer : Answer} :
    Settled (answered :: past) request answer ↔
      answered.input = .settle request answer ∨ Settled past request answer := by
  simp [Settled]

/-- An observable that does not exist yet replays nothing. -/
theorem Invariant.lookup_created (invariant : Invariant past shared) :
    shared.replays.lookup shared.created = none := by
  cases found : shared.replays.lookup shared.created with
  | none => rfl
  | some user =>
      have created := (invariant.settled _ _ (invariant.replayed _ _ found)).1
      omega

/-- What a call does besides writing the signals. -/
structure Subscribes (shared next : SharedUserInfo) : Prop where
  calls : next.calls = shared.calls + 1
  notifying : next.notifying = shared.notifying
  replays : next.replays = shared.replays
  created : shared.created ≤ next.created
  flying : ∀ request ∈ shared.inFlight, request ∈ next.inFlight
  landed : ∀ request ∈ next.inFlight, request < shared.created → request ∈ shared.inFlight
  caller :
    next.waiting = shared.waiting ++ [(shared.calls, shared.returned)] ∧
        next.received = shared.received ∧ shared.returned ∈ next.inFlight ∨
      ∃ user, shared.replays.lookup shared.returned = some user ∧
        next.waiting = shared.waiting ∧
          next.received = shared.received ++ [(shared.calls, .ok user)]

/-- A call on a memo that is idle or has failed. -/
theorem load_of_unloaded {error : Option HttpErrorResponse}
    (service : shared.service = ⟨none, none, false, error⟩) (idle : shared.inFlight = [])
    (unknown : shared.replays.lookup shared.created = none) :
    Subscribes shared shared.loadCurrentUser ∧ shared.loadCurrentUser.Represents .loading ∧
      shared.loadCurrentUser.sent = shared.sent + 1 := by
  have uncached : shared.service.request = none := by rw [service]
  have returned : shared.returned = shared.created := by rw [SharedUserInfo.returned, uncached]; rfl
  rw [loadCurrentUser_starts uncached unknown idle]
  refine ⟨?_, ?_, rfl⟩
  · refine ⟨rfl, rfl, rfl, Nat.le_succ _, ?_, ?_, ?_⟩
    · intro request flying
      rw [idle] at flying
      cases flying
    · intro request flying below
      rw [List.mem_singleton.mp flying] at below
      omega
    · rw [returned]
      exact Or.inl ⟨rfl, rfl, List.mem_singleton_self _⟩
  · refine ⟨shared.created, ?_, rfl, Nat.lt_succ_self _, unknown⟩
    rw [service]

theorem load_of_loading (loading : shared.Represents .loading) :
    Subscribes shared shared.loadCurrentUser ∧ shared.loadCurrentUser.Represents .loading ∧
      shared.loadCurrentUser.sent = shared.sent := by
  obtain ⟨request, service, flying, below, unanswered⟩ := loading
  have cached : shared.service.request = some request := by rw [service]
  have returned : shared.returned = request := by rw [SharedUserInfo.returned, cached]; rfl
  have inFlight : request ∈ shared.inFlight := by
    rw [flying]
    exact List.mem_singleton_self _
  rw [loadCurrentUser_joins cached unanswered inFlight]
  refine ⟨?_, ⟨request, service, flying, below, unanswered⟩, rfl⟩
  refine ⟨rfl, rfl, rfl, Nat.le_refl _, fun _ member => member, fun _ member _ => member, ?_⟩
  rw [returned]
  exact Or.inl ⟨rfl, rfl, inFlight⟩

theorem load_of_loaded {user : UserInfo} (loaded : shared.Represents (.loaded user)) :
    Subscribes shared shared.loadCurrentUser ∧ shared.loadCurrentUser.Represents (.loaded user) ∧
      shared.loadCurrentUser.sent = shared.sent := by
  obtain ⟨request, service, idle, completed⟩ := loaded
  have cached : shared.service.request = some request := by rw [service]
  have returned : shared.returned = request := by rw [SharedUserInfo.returned, cached]; rfl
  rw [loadCurrentUser_replays cached completed]
  refine ⟨?_, ⟨request, service, idle, completed⟩, rfl⟩
  refine ⟨rfl, rfl, rfl, Nat.le_refl _, fun _ member => member, fun _ member _ => member, ?_⟩
  rw [returned]
  exact Or.inr ⟨user, completed, rfl, rfl⟩

/-- A call steps the memo and sends what the memo says. -/
theorem Invariant.load (invariant : Invariant past shared) :
    Subscribes shared shared.loadCurrentUser ∧
      shared.loadCurrentUser.Represents ((memoAfter past).next .loadCurrentUser) ∧
        shared.loadCurrentUser.sent = shared.sent + (memoAfter past).sends := by
  have represents := invariant.represents
  cases memo : memoAfter past with
  | idle =>
      rw [memo] at represents
      exact load_of_unloaded represents.1 represents.2 invariant.lookup_created
  | loading =>
      rw [memo] at represents
      exact load_of_loading represents
  | loaded user =>
      rw [memo] at represents
      exact load_of_loaded represents
  | failed error =>
      rw [memo] at represents
      exact load_of_unloaded represents.1 represents.2 invariant.lookup_created

theorem Invariant.sends_iff (invariant : Invariant past shared) :
    (memoAfter past).sends = 1 ↔ shared.inFlight = [] ∧ ¬ CompletedSinceClear past := by
  rw [invariant.represents.inFlight_iff, invariant.completed]
  cases memoAfter past with
  | idle => simp [Memo.sends]
  | loading => simp [Memo.sends]
  | loaded user => simp [Memo.sends]
  | failed error => simp [Memo.sends]

theorem Invariant.faithful (invariant : Invariant past shared) : FaithfulMemo past shared := by
  obtain ⟨-, -, sent⟩ := invariant.load
  have atMost := Memo.sends_le_one (memoAfter past)
  refine ⟨invariant.represents.oneInFlight, invariant.represents.shown, ?_, ?_, invariant.told,
    invariant.toldOnce, ?_⟩
  · intro alone
    have one := invariant.sends_iff.mpr alone
    show shared.loadCurrentUser.sent = _
    omega
  · intro accompanied
    have notOne : (memoAfter past).sends ≠ 1 := fun one =>
      accompanied (invariant.sends_iff.mp one)
    show shared.loadCurrentUser.sent = _
    omega
  · intro request answer other isSettled again
    exact (invariant.settled request answer isSettled).2.2 other again

/-! ### One action -/

/-- Earlier callers stay accounted for when each waiter waits on or hears the result
of its request and nobody is forgotten. -/
theorem Told.carry {entry : Machine.Entry SharedUserInfo SharedAction Unit}
    {next : SharedUserInfo} (told : Told past shared)
    (waiters : ∀ caller request, (caller, request) ∈ shared.waiting →
      request ∈ shared.inFlight →
        (caller, request) ∈ next.waiting ∧ request ∈ next.inFlight ∨
          ∃ answer, Settled (entry :: past) request answer ∧
            (caller, answer) ∈ next.notifying ++ next.received)
    (heard : ∀ message ∈ shared.notifying ++ shared.received,
      message ∈ next.notifying ++ next.received)
    {called : Machine.Entry SharedUserInfo SharedAction Unit} (member : called ∈ past)
    (isCall : called.input = .loadCurrentUser) :
    (called.before.calls, called.before.returned) ∈ next.waiting ∧
        called.before.returned ∈ next.inFlight ∨
      ∃ answer, Settled (entry :: past) called.before.returned answer ∧
        (called.before.calls, answer) ∈ next.notifying ++ next.received := by
  rcases told called member isCall with ⟨waits, flying⟩ | ⟨answer, isSettled, message⟩
  · exact waiters _ _ waits flying
  · exact Or.inr ⟨answer, settled_cons.mpr (Or.inr isSettled), heard _ message⟩

theorem Subscribes.told (subscribes : Subscribes shared shared.loadCurrentUser)
    (told : Told past shared) (replayed : ∀ request user,
      shared.replays.lookup request = some user → Settled past request (.ok user)) :
    Told (machine.entry shared .loadCurrentUser :: past) shared.loadCurrentUser := by
  intro called member isCall
  rcases List.mem_cons.mp member with rfl | older
  · show (shared.calls, shared.returned) ∈ _ ∧ _ ∨ _
    rcases subscribes.caller with ⟨waits, -, flying⟩ | ⟨user, completed, -, receives⟩
    · refine Or.inl ⟨?_, flying⟩
      rw [waits]
      exact List.mem_append_right _ (List.mem_singleton_self _)
    · refine Or.inr ⟨.ok user, settled_cons.mpr (Or.inr (replayed _ _ completed)), ?_⟩
      rw [receives]
      exact List.mem_append_right _ (List.mem_append_right _ (List.mem_singleton_self _))
  · apply told.carry _ _ older isCall
    · intro caller request waits flying
      refine Or.inl ⟨?_, subscribes.flying request flying⟩
      rcases subscribes.caller with ⟨longer, -⟩ | ⟨user, -, same, -⟩
      · rw [longer]
        exact List.mem_append_left _ waits
      · rwa [same]
    · intro message heard
      rw [subscribes.notifying]
      rcases subscribes.caller with ⟨-, same, -⟩ | ⟨user, -, -, longer⟩
      · rwa [same]
      · rw [longer, ← List.append_assoc]
        exact List.mem_append_left _ heard

/-- The new caller joins the waiting or the told ones. -/
theorem Subscribes.toldOnce {next : SharedUserInfo} (subscribes : Subscribes shared next)
    (toldOnce : ToldOnce shared) : ToldOnce next := by
  unfold ToldOnce at toldOnce ⊢
  rw [List.perm_iff_count] at toldOnce ⊢
  intro caller
  have before := toldOnce caller
  rw [subscribes.notifying, subscribes.calls, List.range_succ]
  rcases subscribes.caller with ⟨waits, same, -⟩ | ⟨user, -, same, receives⟩
  · rw [waits, same]
    simp only [List.map_append, List.count_append, List.map_cons, List.map_nil] at before ⊢
    omega
  · rw [same, receives]
    simp only [List.map_append, List.count_append, List.map_cons, List.map_nil] at before ⊢
    omega

/-- A result moves its waiters to the subscribers being told. -/
theorem told_settle (told : Told past shared) (request : Nat) (answer : Answer) :
    Told (machine.entry shared (.settle request answer) :: past)
      (shared.settle request answer) := by
  intro called member isCall
  rcases List.mem_cons.mp member with rfl | older
  · cases isCall
  · apply told.carry _ _ older isCall
    · intro caller awaited waits flying
      by_cases same : awaited = request
      · refine Or.inr ⟨answer, settled_cons.mpr (Or.inl (by rw [same]; rfl)), ?_⟩
        apply List.mem_append_left
        apply List.mem_append_right
        refine List.mem_map.mpr ⟨(caller, awaited), ?_, rfl⟩
        exact List.mem_filter.mpr ⟨waits, by simpa using same⟩
      · refine Or.inl ⟨?_, (List.mem_erase_of_ne same).mpr flying⟩
        exact List.mem_filter.mpr ⟨waits, by simpa using same⟩
    · intro message heard
      rcases List.mem_append.mp heard with notified | received
      · exact List.mem_append_left _ (List.mem_append_left _ notified)
      · exact List.mem_append_right _ received

theorem toldOnce_settle (toldOnce : ToldOnce shared) (request : Nat) (answer : Answer) :
    ToldOnce (shared.settle request answer) := by
  unfold ToldOnce at toldOnce ⊢
  rw [List.perm_iff_count] at toldOnce ⊢
  intro caller
  have before := toldOnce caller
  have parted := List.filter_append_perm (fun waiter => decide (waiter.2 = request)) shared.waiting
  have callers := (parted.map Prod.fst).count_eq caller
  have names : ((shared.settle request answer).notifying.map Prod.fst) =
      shared.notifying.map Prod.fst ++
        (shared.waiting.filter fun waiter => waiter.2 = request).map Prod.fst := by
    simp [settle]
  rw [names]
  simp only [settle, List.map_append, List.count_append, ne_eq, decide_not] at before callers ⊢
  omega

/-- The message leaves one list and enters the other. -/
theorem notify_eq (shared : SharedUserInfo) :
    shared.notify =
      { shared with
        notifying := shared.notifying.tail
        received := shared.received ++ shared.notifying.head?.toList } := by
  unfold notify
  obtain ⟨service, created, sent, inFlight, replays, calls, waiting, notifying, received⟩ := shared
  cases notifying with
  | nil => simp
  | cons told rest => rfl

theorem told_notify (told : Told past shared) :
    Told (machine.entry shared .notify :: past) shared.notify := by
  rw [notify_eq]
  intro called member isCall
  rcases List.mem_cons.mp member with rfl | older
  · cases isCall
  · apply told.carry _ _ older isCall
    · intro caller request waits flying
      exact Or.inl ⟨waits, flying⟩
    · intro message heard
      cases pending : shared.notifying with
      | nil => simpa [pending] using heard
      | cons first rest =>
          simp only [pending, List.cons_append, List.mem_cons, List.mem_append] at heard
          simp only [List.tail_cons, List.head?_cons, Option.toList_some, List.mem_append,
            List.mem_singleton]
          rcases heard with isFirst | later | received
          · exact Or.inr (Or.inr isFirst)
          · exact Or.inl later
          · exact Or.inr (Or.inl received)

theorem toldOnce_notify (toldOnce : ToldOnce shared) : ToldOnce shared.notify := by
  rw [notify_eq]
  unfold ToldOnce at toldOnce ⊢
  rw [List.perm_iff_count] at toldOnce ⊢
  intro caller
  have before := toldOnce caller
  cases pending : shared.notifying with
  | nil => simpa [pending] using before
  | cons first rest =>
      simp only [pending, List.map_cons, List.map_append, List.count_append, List.count_cons,
        List.tail_cons, List.head?_cons, Option.toList_some, List.map_nil, List.count_nil]
        at before ⊢
      omega

/-- A result that arrives finds the memo loading and leaves it loaded or failed. -/
theorem Represents.settle (loading : shared.Represents .loading) {request : Nat}
    (flying : request ∈ shared.inFlight) (answer : Answer) :
    (shared.settle request answer).Represents (Memo.loading.next (.settle request answer)) := by
  obtain ⟨pending, service, inFlight, -, -⟩ := loading
  rw [inFlight, List.mem_singleton] at flying
  subst flying
  have landed : shared.inFlight.erase request = [] := by
    rw [inFlight, List.erase_cons_head]
  cases answer with
  | ok user =>
      refine ⟨request, ?_, landed, lookup_cons_self⟩
      show shared.service.settle (.ok user) = _
      rw [service]
      rfl
  | error error =>
      refine ⟨?_, landed⟩
      show shared.service.settle (.error error) = _
      rw [service]
      rfl

/-- An action that is no result leaves what was settled. -/
theorem settled_of_other {entry : Machine.Entry SharedUserInfo SharedAction Unit}
    (other : ∀ request answer, entry.input ≠ .settle request answer) {answer : Answer} :
    Settled (entry :: past) request answer ↔ Settled past request answer := by
  rw [settled_cons]
  exact or_iff_right (other request answer)

/-- It also leaves the results final when no request settled before takes off again. -/
theorem Invariant.settled_other (invariant : Invariant past shared)
    {entry : Machine.Entry SharedUserInfo SharedAction Unit} {next : SharedUserInfo}
    (noResult : ∀ request answer, entry.input ≠ .settle request answer)
    (created : shared.created ≤ next.created)
    (landed : ∀ request ∈ next.inFlight, request < shared.created → request ∈ shared.inFlight)
    {answer : Answer} (isSettled : Settled (entry :: past) request answer) :
    request < next.created ∧ request ∉ next.inFlight ∧
      ∀ other, Settled (entry :: past) request other → other = answer := by
  obtain ⟨below, notFlying, unique⟩ :=
    invariant.settled request answer ((settled_of_other noResult).mp isSettled)
  refine ⟨Nat.lt_of_lt_of_le below created, ?_, ?_⟩
  · intro flying
    exact notFlying (landed request flying below)
  · intro other again
    exact unique other ((settled_of_other noResult).mp again)

theorem Memo.loaded_next_load (memo : Memo) (user : UserInfo) :
    memo.next .loadCurrentUser = .loaded user ↔ memo = .loaded user := by
  cases memo <;> simp [Memo.next]

theorem Invariant.next_load (invariant : Invariant past shared) :
    Invariant (machine.entry shared .loadCurrentUser :: past) shared.loadCurrentUser := by
  obtain ⟨subscribes, represents, -⟩ := invariant.load
  refine ⟨represents, ?_, ?_, ?_, subscribes.told invariant.told invariant.replayed,
    subscribes.toldOnce invariant.toldOnce⟩
  · show CompletedSinceClear past ↔ ∃ user, (memoAfter past).next .loadCurrentUser = .loaded user
    simp only [Memo.loaded_next_load]
    exact invariant.completed
  · intro request user replays
    rw [subscribes.replays] at replays
    exact settled_cons.mpr (Or.inr (invariant.replayed request user replays))
  · intro request answer isSettled
    exact invariant.settled_other (fun _ _ => SharedAction.noConfusion) subscribes.created
      subscribes.landed isSettled

theorem Invariant.next_clear (invariant : Invariant past shared) (idle : shared.inFlight = []) :
    Invariant (machine.entry shared .clearUser :: past) (shared.step .clearUser) := by
  refine ⟨⟨rfl, idle⟩, ?_, ?_, ?_, ?_, invariant.toldOnce⟩
  · show False ↔ ∃ user, Memo.idle = .loaded user
    simp
  · intro request user replays
    exact settled_cons.mpr (Or.inr (invariant.replayed request user replays))
  · intro request answer isSettled
    exact invariant.settled_other (fun _ _ => SharedAction.noConfusion) (Nat.le_refl _)
      (fun _ flying _ => flying) isSettled
  · intro called member isCall
    rcases List.mem_cons.mp member with rfl | older
    · cases isCall
    · exact invariant.told.carry (fun _ _ waits flying => Or.inl ⟨waits, flying⟩)
        (fun _ heard => heard) older isCall

theorem Represents.notify (represents : shared.Represents memo) :
    shared.notify.Represents memo := by
  rw [notify_eq]
  cases memo with
  | idle => exact represents
  | loading => exact represents
  | loaded user => exact represents
  | failed error => exact represents

theorem Invariant.next_notify (invariant : Invariant past shared) :
    Invariant (machine.entry shared .notify :: past) shared.notify := by
  refine ⟨invariant.represents.notify, invariant.completed, ?_, ?_, told_notify invariant.told,
    toldOnce_notify invariant.toldOnce⟩
  · intro request user replays
    rw [notify_eq] at replays
    exact settled_cons.mpr (Or.inr (invariant.replayed request user replays))
  · intro request answer isSettled
    rw [notify_eq]
    exact invariant.settled_other (fun _ _ => SharedAction.noConfusion) (Nat.le_refl _)
      (fun _ flying _ => flying) isSettled

theorem settled_entry {answer given : Answer} {other : Nat} :
    Settled (machine.entry shared (.settle request answer) :: past) other given ↔
      request = other ∧ answer = given ∨ Settled past other given := by
  have input : (machine.entry shared (.settle request answer)).input =
      .settle request answer := rfl
  rw [settled_cons, input, SharedAction.settle.injEq]

/-- A request in flight has no result yet, so the one that arrives is its only one. -/
theorem Invariant.settled_settle (invariant : Invariant past shared)
    (loading : shared.Represents .loading) (flying : request ∈ shared.inFlight) (answer : Answer)
    {other : Nat} {given : Answer}
    (isSettled : Settled (machine.entry shared (.settle request answer) :: past) other given) :
    other < shared.created ∧ other ∉ (shared.settle request answer).inFlight ∧
      ∀ again, Settled (machine.entry shared (.settle request answer) :: past) other again →
        again = given := by
  obtain ⟨pending, -, inFlight, below, -⟩ := loading
  have isPending : request = pending := by
    rw [inFlight] at flying
    exact List.mem_singleton.mp flying
  have landed : (shared.settle request answer).inFlight = [] := by
    show shared.inFlight.erase request = []
    rw [inFlight, isPending, List.erase_cons_head]
  have unsettled : ∀ earlier, ¬ Settled past request earlier := fun earlier before =>
    (invariant.settled request earlier before).2.1 flying
  rw [landed]
  rcases settled_entry.mp isSettled with ⟨rfl, rfl⟩ | before
  · refine ⟨isPending ▸ below, List.not_mem_nil, ?_⟩
    intro again settledAgain
    rcases settled_entry.mp settledAgain with ⟨-, same⟩ | earlier
    · exact same.symm
    · exact absurd earlier (unsettled again)
  · obtain ⟨created, -, unique⟩ := invariant.settled other given before
    refine ⟨created, List.not_mem_nil, ?_⟩
    intro again settledAgain
    rcases settled_entry.mp settledAgain with ⟨rfl, -⟩ | earlier
    · exact absurd before (unsettled given)
    · exact unique again earlier

theorem Invariant.replayed_settle (invariant : Invariant past shared) (request : Nat)
    (answer : Answer) {other : Nat} {user : UserInfo}
    (replays : (shared.settle request answer).replays.lookup other = some user) :
    Settled (machine.entry shared (.settle request answer) :: past) other (.ok user) := by
  cases answer with
  | error error => exact settled_entry.mpr (Or.inr (invariant.replayed other user replays))
  | ok given =>
      change ((request, given) :: shared.replays).lookup other = some user at replays
      by_cases same : other = request
      · rw [same, lookup_cons_self] at replays
        exact settled_entry.mpr (Or.inl ⟨same.symm, congrArg _ (Option.some.inj replays)⟩)
      · rw [lookup_cons_other same] at replays
        exact settled_entry.mpr (Or.inr (invariant.replayed other user replays))

theorem Invariant.next_settle (invariant : Invariant past shared)
    (flying : request ∈ shared.inFlight) (answer : Answer) :
    Invariant (machine.entry shared (.settle request answer) :: past)
      (shared.settle request answer) := by
  have loading : memoAfter past = .loading := by
    by_contra notLoading
    rw [invariant.represents.inFlight_iff.mpr notLoading] at flying
    cases flying
  have represents := invariant.represents
  rw [loading] at represents
  refine ⟨?_, ?_, fun _ _ => invariant.replayed_settle request answer,
    fun _ _ => invariant.settled_settle represents flying answer,
    told_settle invariant.told request answer, toldOnce_settle invariant.toldOnce request answer⟩
  · show (shared.settle request answer).Represents ((memoAfter past).next (.settle request answer))
    rw [loading]
    exact represents.settle flying answer
  · cases answer with
    | ok user => exact iff_of_true trivial ⟨user, rfl⟩
    | error error =>
        have before : ¬ CompletedSinceClear past := by
          rw [invariant.completed, loading]
          simp
        exact iff_of_false before (by
          intro completed
          obtain ⟨user, impossible⟩ := completed
          cases impossible)

theorem Invariant.next {action : SharedAction} (invariant : Invariant past shared)
    (orderly : Orderly past shared action) :
    Invariant (machine.entry shared action :: past) (shared.step action) := by
  cases action with
  | loadCurrentUser => exact invariant.next_load
  | clearUser => exact invariant.next_clear orderly
  | settle request answer => exact invariant.next_settle orderly answer
  | notify => exact invariant.next_notify

theorem invariant_initial : Invariant [] initial := by
  refine ⟨⟨rfl, rfl⟩, ?_, ?_, ?_, ?_, ?_⟩
  · show False ↔ ∃ user, Memo.idle = .loaded user
    simp
  · intro request user replays
    cases replays
  · intro request answer isSettled
    obtain ⟨answered, impossible, -⟩ := isSettled
    cases impossible
  · intro called impossible
    cases impossible
  · exact List.Perm.refl []

/-- In every run the service is a faithful memo of the current user. -/
theorem faithfulMemo_of_run {past : Past} {shared : SharedUserInfo}
    (run : Machine.Run machine Orderly initial past shared) : FaithfulMemo past shared := by
  have invariant : Invariant past shared := by
    apply run.invariant
    · exact invariant_initial
    · intro earlier before action _ orderly invariant
      exact invariant.next orderly
  exact invariant.faithful

private def visitor : UserInfo := ⟨"8d8c45ab", "visitor@example.com", true, "user"⟩

/-- The request of two callers fails, and the first one told calls again before the
second one is. -/
private def retry : List SharedAction :=
  [.loadCurrentUser, .loadCurrentUser, .settle 0 (.error ⟨503, .null⟩), .notify, .loadCurrentUser,
    .notify, .settle 1 (.ok visitor), .notify, .loadCurrentUser]

theorem faithfulMemo_retry :
    FaithfulMemo (machine.execute [] initial retry).1 (machine.execute [] initial retry).2 ∧
      (machine.execute [] initial retry).2.received =
        [(0, .error ⟨503, .null⟩), (1, .error ⟨503, .null⟩), (2, .ok visitor),
          (3, .ok visitor)] := by
  have orderly : machine.Allows Orderly [] initial retry :=
    ⟨trivial, trivial, List.mem_cons_self, trivial, trivial, trivial, List.mem_cons_self, trivial,
      trivial, trivial⟩
  exact ⟨faithfulMemo_of_run (machine.run_execute .start orderly), rfl⟩

end SharedUserInfo

end DemoBase.Frontend
