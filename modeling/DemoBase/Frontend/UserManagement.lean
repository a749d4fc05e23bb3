import DemoBase.Foundations.Machine
import DemoBase.Foundations.NewestRequest
import DemoBase.Frontend.Guards

/-!
Owns `UserManagementService`: the page requests of the admin view, each with the
signals `SignalizerService` made for it, and the effects that mirror them into the
seven signals of the service. The service refines the view of the newest request.
-/

set_option autoImplicit false

namespace DemoBase.Frontend

open DemoBase.Foundations DemoBase.Foundations.NewestRequest

structure PaginatedUsersResponse where
  items : List UserInfo
  total : Nat
  page : Nat
  size : Nat
  pages : Nat
deriving DecidableEq, Repr

structure ApiSignals (T : Type) where
  isLoading : Bool
  data : Option T
  error : Option HttpErrorResponse
deriving DecidableEq, Repr

namespace SignalizerService

variable {T : Type}

def createSignals : ApiSignals T := ⟨true, none, none⟩

/-- The callbacks `executeRequest` subscribes. -/
def executeRequest (signals : ApiSignals T) : Except HttpErrorResponse T → ApiSignals T
  | .ok response => { signals with data := some response, isLoading := false }
  | .error err => { signals with error := some err, isLoading := false }

end SignalizerService

/-- The signals `UserManagementService` keeps. -/
structure UserSignals where
  users : List UserInfo
  totalUsers : Nat
  currentPage : Nat
  pageSize : Nat
  totalPages : Nat
  isLoading : Bool
  error : Option HttpErrorResponse
deriving DecidableEq, Repr

/-- An effect is named by the request it mirrors. -/
structure UserManagementService extends UserSignals where
  syncEffect : Option Nat
deriving DecidableEq, Repr

namespace UserManagementService

def initial : UserManagementService := ⟨⟨[], 0, 1, 10, 0, false, none⟩, none⟩

variable (self : UserManagementService)

/-- The writes of `fetchAllUsers`, with the number of its request. -/
def fetchAllUsers (request : Nat) : UserManagementService :=
  { self with isLoading := true, error := none, syncEffect := some request }

def clearUsers : UserManagementService :=
  { self with
    syncEffect := none, users := [], totalUsers := 0, currentPage := 1, totalPages := 0
    isLoading := false, error := none }

/-- The body of the effect. -/
def sync (signals : ApiSignals PaginatedUsersResponse) : UserManagementService :=
  let loading := { self with isLoading := signals.isLoading }
  let mirrored :=
    match signals.data with
    | none => loading
    | some data =>
        { loading with
          users := data.items, totalUsers := data.total, currentPage := data.page
          pageSize := data.size, totalPages := data.pages }
  match signals.error with
  | none => mirrored
  | some error => { mirrored with error := some error }

/-- Users, total, page and page count are those of this response. -/
def Shows (response : PaginatedUsersResponse) : Prop :=
  self.users = response.items ∧ self.totalUsers = response.total ∧
    self.currentPage = response.page ∧ self.totalPages = response.pages

def ShowsNobody : Prop :=
  self.users = [] ∧ self.totalUsers = 0 ∧ self.currentPage = 1 ∧ self.totalPages = 0

end UserManagementService

structure PageRequest where
  endpoint : String
  signals : ApiSignals PaginatedUsersResponse
deriving DecidableEq, Repr

/-- An effect that was not destroyed; `pending` says that it runs at the next flush. -/
structure SyncEffect where
  request : Nat
  pending : Bool
deriving DecidableEq, Repr

/-- The service with all requests it sent and all effects that are alive. -/
structure UserManagement where
  service : UserManagementService
  requests : List PageRequest
  effects : List SyncEffect
deriving DecidableEq, Repr

inductive ManagementAction where
  | fetchAllUsers (page size : Nat)
  | clearUsers
  | deliver (id : Nat) (response : Except HttpErrorResponse PaginatedUsersResponse)
  | flush

namespace UserManagement

def initial : UserManagement := ⟨.initial, [], []⟩

variable (self : UserManagement)

/-- `this.syncEffect?.destroy()`. -/
def destroySyncEffect : List SyncEffect :=
  match self.service.syncEffect with
  | none => self.effects
  | some request => self.effects.filter fun effect => effect.request != request

/-- An effect runs again when a signal it read was set to another value. -/
def notify (id : Nat) (before after : ApiSignals PaginatedUsersResponse) (effect : SyncEffect) :
    SyncEffect :=
  if effect.request = id ∧ before ≠ after then { effect with pending := true } else effect

def runEffect (service : UserManagementService) (effect : SyncEffect) : UserManagementService :=
  if effect.pending then
    match self.requests[effect.request]? with
    | none => service
    | some request => service.sync request.signals
  else service

/-- `isLoading` of its signals says whether a request is still on its way. -/
def step : ManagementAction → UserManagement
  | .fetchAllUsers page size =>
      { service := self.service.fetchAllUsers self.requests.length
        requests := self.requests ++
          [⟨s!"/users?page={page}&size={size}", SignalizerService.createSignals⟩]
        effects := self.destroySyncEffect ++ [⟨self.requests.length, true⟩] }
  | .clearUsers =>
      { self with service := self.service.clearUsers, effects := self.destroySyncEffect }
  | .deliver id response =>
      match self.requests[id]? with
      | none => self
      | some request =>
          if request.signals.isLoading then
            let signals := SignalizerService.executeRequest request.signals response
            { self with
              requests := self.requests.set id { request with signals }
              effects := self.effects.map (notify id request.signals signals) }
          else self
  | .flush =>
      { self with
        service := self.effects.foldl self.runEffect self.service
        effects := self.effects.map fun effect => { effect with pending := false } }

def machine : Machine UserManagement ManagementAction Unit :=
  ⟨fun management action => (management.step action, ())⟩

abbrev Past := Machine.History UserManagement ManagementAction Unit

/-- What an action means to the newest request. -/
def event : ManagementAction → Event HttpErrorResponse PaginatedUsersResponse
  | .fetchAllUsers _ _ => .issue
  | .clearUsers => .reset
  | .deliver id response => .answer id response
  | .flush => .look

def log (past : Past) : List (Event HttpErrorResponse PaginatedUsersResponse) :=
  past.map fun answered => event answered.input

/-- The seven signals for what the view shows. -/
def render (shown : Shown HttpErrorResponse PaginatedUsersResponse) : UserSignals where
  users := (shown.value.map (·.items)).getD []
  totalUsers := (shown.value.map (·.total)).getD 0
  currentPage := (shown.value.map (·.page)).getD 1
  pageSize := (shown.latest.map (·.size)).getD 10
  totalPages := (shown.value.map (·.pages)).getD 0
  isLoading := shown.waiting
  error := shown.error

/-- The signals of a request that was given this answer, or none yet. -/
def settled : Option (Except HttpErrorResponse PaginatedUsersResponse) →
    ApiSignals PaginatedUsersResponse
  | none => SignalizerService.createSignals
  | some response => SignalizerService.executeRequest SignalizerService.createSignals response

/-- The only effect alive mirrors the newest request, and one that is not pending
has nothing to write. -/
structure Refines (events : List (Event HttpErrorResponse PaginatedUsersResponse))
    (management : UserManagement) : Prop where
  signals : management.service.toUserSignals = render (shown events)
  counted : management.requests.length = issued events
  requests : ∀ id request, management.requests[id]? = some request →
    request.signals = settled (responseTo id events)
  syncEffect : management.service.syncEffect = newest events
  effects : management.effects.map SyncEffect.request = (newest events).toList
  mirrored : ∀ effect ∈ management.effects, effect.pending = false →
    (shown events).look (responseTo effect.request events) = shown events

variable {events : List (Event HttpErrorResponse PaginatedUsersResponse)}
  {management : UserManagement}

/-- Mirroring the signals of a request renders what a look at it shows. -/
theorem sync_render {service : UserManagementService}
    {before : Shown HttpErrorResponse PaginatedUsersResponse}
    (rendered : service.toUserSignals = render before)
    {response : Option (Except HttpErrorResponse PaginatedUsersResponse)}
    (noError : ∀ page, response = some (.ok page) → before.error = none) :
    (service.sync (settled response)).toUserSignals = render (before.look response) ∧
      (service.sync (settled response)).syncEffect = service.syncEffect := by
  obtain ⟨signals, syncEffect⟩ := service
  obtain rfl : signals = render before := rendered
  cases response with
  | none => exact ⟨rfl, rfl⟩
  | some response =>
      cases response with
      | error error => exact ⟨rfl, rfl⟩
      | ok page =>
          refine ⟨?_, rfl⟩
          have noErrorYet := noError page rfl
          simp [UserManagementService.sync, settled, SignalizerService.executeRequest,
            SignalizerService.createSignals, render, Shown.look, noErrorYet]

theorem settled_isLoading
    (response : Option (Except HttpErrorResponse PaginatedUsersResponse)) :
    (settled response).isLoading = true ↔ response = none := by
  cases response with
  | none => exact iff_of_true rfl rfl
  | some response =>
      cases response with
      | ok page => exact iff_of_false Bool.false_ne_true (by simp)
      | error error => exact iff_of_false Bool.false_ne_true (by simp)

namespace Refines

theorem effects_of_none (refines : Refines events management) (reset : newest events = none) :
    management.effects = [] := by
  have none := refines.effects
  rw [reset] at none
  exact List.map_eq_nil_iff.mp none

theorem effects_of_some (refines : Refines events management) {id : Nat}
    (isNewest : newest events = some id) : ∃ pending, management.effects = [⟨id, pending⟩] := by
  have one := refines.effects
  rw [isNewest] at one
  rcases List.map_eq_singleton_iff.mp one with ⟨⟨request, pending⟩, only, rfl⟩
  exact ⟨pending, only⟩

/-- Destroying the effect of the newest request leaves none. -/
theorem destroySyncEffect_eq_nil (refines : Refines events management) :
    management.destroySyncEffect = [] := by
  unfold destroySyncEffect
  rw [refines.syncEffect]
  cases isNewest : newest events with
  | none => exact refines.effects_of_none isNewest
  | some id =>
      rcases refines.effects_of_some isNewest with ⟨pending, only⟩
      simp [only]

theorem fetchAllUsers (refines : Refines events management) (page size : Nat) :
    Refines (.issue :: events) (management.step (.fetchAllUsers page size)) := by
  have destroyed := refines.destroySyncEffect_eq_nil
  refine ⟨?_, ?_, ?_, ?_, ?_, ?_⟩
  · show { management.service.toUserSignals with isLoading := true, error := none } = _
    rw [refines.signals]
    rfl
  · show (management.requests ++ [_]).length = issued events + 1
    rw [List.length_append, refines.counted]
    rfl
  · intro id request found
    change (management.requests ++ [_])[id]? = some request at found
    show request.signals = settled (responseTo id events)
    by_cases older : id < management.requests.length
    · rw [List.getElem?_append_left older] at found
      exact refines.requests id request found
    · have unanswered : responseTo id events = none := by
        cases answered : responseTo id events with
        | none => rfl
        | some response =>
            have issuedBefore := issued_of_responseTo answered
            have issuedNow := refines.counted
            omega
      rw [List.getElem?_append_right (Nat.not_lt.mp older)] at found
      obtain rfl := List.mem_singleton.mp (List.mem_of_getElem? found)
      rw [unanswered]
      rfl
  · show some management.requests.length = some (issued events)
    rw [refines.counted]
  · show (management.destroySyncEffect ++ [_]).map SyncEffect.request = [issued events]
    rw [destroyed, refines.counted]
    rfl
  · intro effect member idle
    change effect ∈ management.destroySyncEffect ++ [_] at member
    rw [destroyed] at member
    obtain rfl := List.mem_singleton.mp member
    cases idle

theorem clearUsers (refines : Refines events management) :
    Refines (.reset :: events) (management.step .clearUsers) := by
  have destroyed := refines.destroySyncEffect_eq_nil
  refine ⟨?_, refines.counted, refines.requests, rfl, ?_, ?_⟩
  · show { management.service.toUserSignals with
      users := [], totalUsers := 0, currentPage := 1, totalPages := 0, isLoading := false
      error := none } = _
    rw [refines.signals]
    rfl
  · show management.destroySyncEffect.map SyncEffect.request = []
    rw [destroyed]
    rfl
  · intro effect member
    change effect ∈ management.destroySyncEffect at member
    rw [destroyed] at member
    cases member

/-- A second answer, and one to a request that was not issued, is dropped. -/
theorem ignored (refines : Refines events management) {id : Nat}
    {response : Except HttpErrorResponse PaginatedUsersResponse}
    (same : ∀ other, responseTo other (.answer id response :: events) = responseTo other events) :
    Refines (.answer id response :: events) management := by
  refine ⟨refines.signals, refines.counted, ?_, refines.syncEffect, refines.effects, ?_⟩
  · intro other request found
    rw [same other]
    exact refines.requests other request found
  · intro effect member idle
    rw [same effect.request]
    exact refines.mirrored effect member idle

theorem notify_request (id : Nat) (before after : ApiSignals PaginatedUsersResponse)
    (effect : SyncEffect) : (notify id before after effect).request = effect.request := by
  unfold notify
  by_cases read : effect.request = id ∧ before ≠ after
  · rw [if_pos read]
  · rw [if_neg read]

/-- The first answer to a request sets its signals and schedules the effect that
reads them. -/
theorem answered (refines : Refines events management) {id : Nat} {request : PageRequest}
    (found : management.requests[id]? = some request) (unanswered : responseTo id events = none)
    (response : Except HttpErrorResponse PaginatedUsersResponse) :
    Refines (.answer id response :: events) (management.step (.deliver id response)) := by
  have inBounds := (List.getElem?_eq_some_iff.mp found).1
  have issuedBefore : id < issued events := by
    have counted := refines.counted
    omega
  have fresh : request.signals = SignalizerService.createSignals := by
    rw [refines.requests id request found, unanswered]
    rfl
  have now := responseTo_answer_self unanswered issuedBefore response
  have changed : SignalizerService.createSignals ≠ settled (some response) := by
    intro same
    have loading := (settled_isLoading (some response)).mp (same ▸ rfl)
    cases loading
  have delivered : management.step (.deliver id response) =
      { management with
        requests := management.requests.set id { request with signals := settled (some response) }
        effects := management.effects.map
          (notify id SignalizerService.createSignals (settled (some response))) } := by
    simp [step, found, fresh, settled, SignalizerService.createSignals]
  rw [delivered]
  refine ⟨refines.signals, ?_, ?_, refines.syncEffect, ?_, ?_⟩
  · show (management.requests.set id _).length = issued events
    rw [List.length_set, refines.counted]
  · intro other otherRequest otherFound
    change (management.requests.set id _)[other]? = some otherRequest at otherFound
    by_cases same : other = id
    · obtain rfl := same
      rw [List.getElem?_set_self inBounds] at otherFound
      obtain rfl := Option.some.inj otherFound
      rw [now]
    · rw [List.getElem?_set_ne (Ne.symm same)] at otherFound
      rw [responseTo_answer_of_ne same]
      exact refines.requests other otherRequest otherFound
  · show (management.effects.map _).map SyncEffect.request = (newest events).toList
    rw [← refines.effects, List.map_map]
    apply List.map_congr_left
    intro effect _
    exact notify_request id _ _ effect
  · intro effect member idle
    rcases List.mem_map.mp member with ⟨before, beforeMember, rfl⟩
    unfold notify at idle ⊢
    by_cases read : before.request = id
    · rw [if_pos ⟨read, changed⟩] at idle
      cases idle
    · have unread : ¬ (before.request = id ∧
          SignalizerService.createSignals ≠ settled (some response)) := fun both => read both.1
      rw [if_neg unread] at idle ⊢
      rw [responseTo_answer_of_ne read]
      exact refines.mirrored before beforeMember idle

theorem deliver (refines : Refines events management) (id : Nat)
    (response : Except HttpErrorResponse PaginatedUsersResponse) :
    Refines (.answer id response :: events) (management.step (.deliver id response)) := by
  cases found : management.requests[id]? with
  | none =>
      have stays : management.step (.deliver id response) = management := by
        simp only [step, found]
      have unissued : issued events ≤ id := by
        rw [← refines.counted]
        exact List.getElem?_eq_none_iff.mp found
      rw [stays]
      apply refines.ignored
      intro other
      have ignored : responseTo id events = some response ∨ issued events ≤ id := Or.inr unissued
      exact responseTo_answer_ignored ignored other response
  | some request =>
      cases before : responseTo id events with
      | none => exact refines.answered found before response
      | some first =>
          have done : ¬ request.signals.isLoading = true := by
            rw [refines.requests id request found, settled_isLoading, before]
            simp
          have stays : management.step (.deliver id response) = management := by
            simp only [step, found, if_neg done]
          rw [stays]
          apply refines.ignored
          intro other
          exact responseTo_answer_ignored (Or.inl before) other response

theorem flush (refines : Refines events management) :
    Refines (.look :: events) (management.step .flush) := by
  have effects : (management.step .flush).effects.map SyncEffect.request =
      (newest events).toList := by
    show (management.effects.map _).map SyncEffect.request = _
    rw [List.map_map, ← refines.effects]
    rfl
  cases isNewest : newest events with
  | none =>
      have noEffects := refines.effects_of_none isNewest
      have stays : (management.step .flush).service = management.service := by
        simp [step, noEffects]
      have same : shown (.look :: events) = shown events := by
        simp only [shown, isNewest]
      refine ⟨?_, refines.counted, refines.requests, ?_, effects, ?_⟩
      · rw [same, stays]
        exact refines.signals
      · rw [stays]
        exact refines.syncEffect
      · intro effect member
        simp [step, noEffects] at member
  | some id =>
      rcases refines.effects_of_some isNewest with ⟨pending, only⟩
      have looked : shown (.look :: events) = (shown events).look (responseTo id events) := by
        simp only [shown, isNewest]
      have inBounds : id < management.requests.length := by
        have issuedBefore := newest_lt isNewest
        have issuedNow := refines.counted
        omega
      have found := List.getElem?_eq_getElem inBounds
      have noError : ∀ page, responseTo id events = some (.ok page) →
          (shown events).error = none := by
        intro page answered
        cases isShown : (shown events).error with
        | none => rfl
        | some error =>
            rcases shown_error isShown with ⟨other, otherNewest, failed⟩
            obtain rfl := Option.some.inj (isNewest.symm.trans otherNewest)
            rw [answered] at failed
            cases failed
      have service : (management.step .flush).service.toUserSignals =
            render ((shown events).look (responseTo id events)) ∧
          (management.step .flush).service.syncEffect = management.service.syncEffect := by
        cases pending with
        | false =>
            have nothing := refines.mirrored ⟨id, false⟩ (by simp [only]) rfl
            rw [nothing, ← refines.signals]
            simp [step, only, runEffect]
        | true =>
            have ran : (management.step .flush).service =
                management.service.sync (settled (responseTo id events)) := by
              have signals := refines.requests id _ found
              simp [step, only, runEffect, found, signals]
            rw [ran]
            exact sync_render refines.signals noError
      refine ⟨?_, refines.counted, refines.requests, ?_, effects, ?_⟩
      · rw [looked]
        exact service.1
      · rw [service.2]
        exact refines.syncEffect
      · intro effect member _
        have isOnly : effect = ⟨id, false⟩ := by simpa [step, only] using member
        rw [looked, isOnly]
        exact Shown.look_look _ _

theorem step (refines : Refines events management) (action : ManagementAction) :
    Refines (event action :: events) (management.step action) := by
  cases action with
  | fetchAllUsers page size => exact refines.fetchAllUsers page size
  | clearUsers => exact refines.clearUsers
  | deliver id response => exact refines.deliver id response
  | flush => exact refines.flush

theorem initial : Refines [] initial := by
  refine ⟨rfl, rfl, ?_, rfl, rfl, ?_⟩
  · intro id request found
    cases found
  · intro effect member
    cases member

end Refines

theorem refines_of_run {environment : Machine.Environment UserManagement ManagementAction Unit}
    {past : Past} (run : Machine.Run machine environment initial past management) :
    Refines (log past) management := by
  apply run.invariant
  · exact Refines.initial
  · intro earlier before action _ _ refines
    exact refines.step action

theorem render_shows {before : Shown HttpErrorResponse PaginatedUsersResponse}
    (rendered : management.service.toUserSignals = render before) :
    match before.value with
    | none => management.service.ShowsNobody
    | some response => management.service.Shows response := by
  unfold UserManagementService.ShowsNobody UserManagementService.Shows
  rw [rendered]
  cases value : before.value with
  | none => simp [render, value]
  | some response => simp [render, value]

/-- The newest page request wins. In every run the answers to a superseded request
make no difference to any signal; after a flush `isLoading` and `error` are those of
the newest request; and the users, their total and the page come from the last
response that was mirrored while its request was newest, or from none. -/
theorem newestRequest_wins {past : Past}
    (run : Machine.Run machine Machine.unrestricted initial past management) :
    (∀ id, Superseded id (log past) → ∀ otherPast other,
        Machine.Run machine Machine.unrestricted initial otherPast other →
        log otherPast = withoutAnswers id (log past) →
          other.service.toUserSignals = management.service.toUserSignals) ∧
      (∀ older, log past = .look :: older →
        (management.service.isLoading = true ↔
            ∃ id, newest older = some id ∧ responseTo id older = none) ∧
          ∀ error, management.service.error = some error ↔
            ∃ id, newest older = some id ∧ responseTo id older = some (.error error)) ∧
      ((∃ response, LastSeen response (log past) ∧ management.service.Shows response) ∨
        (¬ ∃ response, LastSeen response (log past)) ∧ management.service.ShowsNobody) := by
  have refines := refines_of_run run
  refine ⟨?_, ?_, ?_⟩
  · intro id superseded otherPast other otherRun same
    have otherSignals := (refines_of_run otherRun).signals
    rw [otherSignals, same, shown_withoutAnswers superseded.neverSeen]
    exact refines.signals.symm
  · intro older flushed
    have isLoading : management.service.isLoading = (shown (log past)).waiting :=
      congrArg UserSignals.isLoading refines.signals
    have error : management.service.error = (shown (log past)).error :=
      congrArg UserSignals.error refines.signals
    rw [isLoading, error, flushed]
    exact ⟨shown_look_waiting, shown_look_error⟩
  · have shows := render_shows refines.signals
    cases value : (shown (log past)).value with
    | none =>
        rw [value] at shows
        refine Or.inr ⟨?_, shows⟩
        rintro ⟨response, last⟩
        rw [(shown_value_iff response).mpr last] at value
        cases value
    | some response =>
        rw [value] at shows
        exact Or.inl ⟨response, (shown_value_iff response).mp value, shows⟩

private def alice : UserInfo := ⟨"8d8c45ab", "alice@example.com", true, "user"⟩

/-- Page 1 answers late, after page 2 was asked for and answered. -/
private def secondPageOvertakes : List ManagementAction :=
  [.fetchAllUsers 1 10, .flush, .fetchAllUsers 2 10, .deliver 1 (.ok ⟨[alice], 11, 2, 10, 2⟩),
    .deliver 0 (.error ⟨500, .null⟩), .flush]

theorem newestRequest_wins_secondPageOvertakes :
    (machine.execute [] initial secondPageOvertakes).2.service.isLoading = false ∧
      (machine.execute [] initial secondPageOvertakes).2.service.error = none ∧
      (machine.execute [] initial secondPageOvertakes).2.service.Shows
        ⟨[alice], 11, 2, 10, 2⟩ := by
  rcases newestRequest_wins (machine.run_unrestricted initial secondPageOvertakes) with
    ⟨-, flushed, shows⟩
  rcases flushed _ rfl with ⟨loading, error⟩
  refine ⟨?_, ?_, ?_⟩
  · rw [← Bool.not_eq_true, loading]
    rintro ⟨id, isNewest, unanswered⟩
    obtain rfl : 1 = id := Option.some.inj isNewest
    revert unanswered
    exact fun unanswered => by cases unanswered
  · rw [Option.eq_none_iff_forall_ne_some]
    intro raised isShown
    rcases (error raised).mp isShown with ⟨id, isNewest, failed⟩
    obtain rfl : 1 = id := Option.some.inj isNewest
    cases failed
  · rcases shows with ⟨response, last, isShown⟩ | ⟨nothing, -⟩
    · have same := (shown_value_iff response).mpr last
      obtain rfl := Option.some.inj same
      exact isShown
    · exact absurd ⟨_, (shown_value_iff _).mp rfl⟩ nothing

end UserManagement

end DemoBase.Frontend
