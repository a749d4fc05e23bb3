import DemoBase.Frontend.UserManagement

/-!
Owns `AdminViewComponent`: the requests its buttons send, what its template renders
from the signals of `UserManagementService`, and where the rendered page can come
from in any order of clicks, answers and flushes.
-/

set_option autoImplicit false

namespace DemoBase.Frontend

open DemoBase.Foundations

/-! ### The template -/

namespace UserSignals

variable (self : UserSignals)

/-- The table is rendered, and with it the buttons that change the page. -/
def rendersTable : Bool := !self.isLoading && self.error.isNone && 0 < self.users.length

/-- The `No Users Found` card is rendered. -/
def rendersEmpty : Bool := !self.isLoading && self.error.isNone && self.users.length = 0

/-- The buttons that change the page are rendered. -/
def rendersPagination : Bool := self.rendersTable && 1 < self.totalPages

/-- The number in front of the row at this index. -/
def rowNumber (index : Nat) : Int := (self.currentPage - 1 : Int) * self.pageSize + index + 1

/-- The computed signal `paginationPages`. -/
def paginationPages : List Nat :=
  let start := max 1 (self.currentPage - 2)
  let last := min self.totalPages (self.currentPage + 2)
  List.range' start (last + 1 - start)

theorem mem_paginationPages {page : Nat} :
    page ∈ self.paginationPages ↔
      1 ≤ page ∧ page ≤ self.totalPages ∧ page ≤ self.currentPage + 2 ∧
        self.currentPage ≤ page + 2 := by
  unfold paginationPages
  rw [List.mem_range'_1]
  omega

end UserSignals

/-! ### The component -/

/-- What its user does. Opening the view is `ngOnInit`. -/
inductive ViewAction where
  | opens
  | goToPage (page : Nat)
  | previousPage
  | nextPage

namespace AdminViewComponent

/-- The page `goToPage` loads, if it loads one. -/
def goToPage (signals : UserSignals) (page : Nat) : Option Nat :=
  if 1 ≤ page ∧ page ≤ signals.totalPages then some page else none

def previousPage (signals : UserSignals) : Option Nat :=
  if 1 < signals.currentPage then goToPage signals (signals.currentPage - 1) else none

def nextPage (signals : UserSignals) : Option Nat :=
  if signals.currentPage < signals.totalPages then goToPage signals (signals.currentPage + 1)
  else none

/-- The page an action loads. -/
def loads (signals : UserSignals) : ViewAction → Option Nat
  | .opens => some 1
  | .goToPage page => goToPage signals page
  | .previousPage => previousPage signals
  | .nextPage => nextPage signals

/-- `loadUsers`. -/
def loadUsers (management : UserManagement) (page : Nat) : UserManagement :=
  management.step (.fetchAllUsers page 10)

/-- Besides its first page the view asks only for a page it was told of. -/
theorem loads_bounded {signals : UserSignals} {action : ViewAction} {page : Nat}
    (loaded : loads signals action = some page) :
    page = 1 ∨ 1 ≤ page ∧ page ≤ signals.totalPages := by
  have bounded : ∀ wanted, goToPage signals wanted = some page →
      1 ≤ page ∧ page ≤ signals.totalPages := by
    intro wanted goes
    unfold goToPage at goes
    split at goes
    · rename_i inside
      obtain rfl := Option.some.inj goes
      exact inside
    · cases goes
  cases action with
  | opens =>
      left
      exact (Option.some.inj loaded).symm
  | goToPage wanted => exact Or.inr (bounded wanted loaded)
  | previousPage =>
      simp only [loads, previousPage] at loaded
      split at loaded
      · exact Or.inr (bounded _ loaded)
      · cases loaded
  | nextPage =>
      simp only [loads, nextPage] at loaded
      split at loaded
      · exact Or.inr (bounded _ loaded)
      · cases loaded

theorem nextPage_eq_some {signals : UserSignals} (more : signals.currentPage < signals.totalPages) :
    nextPage signals = some (signals.currentPage + 1) := by
  unfold nextPage goToPage
  rw [if_pos more, if_pos (by omega)]

end AdminViewComponent

/-! ### Where the signals come from -/

namespace UserManagementService

/-- All that the signals tell about a page is from this response. -/
structure Renders (service : UserManagementService) (response : PaginatedUsersResponse) :
    Prop where
  users : service.users = response.items
  totalUsers : service.totalUsers = response.total
  currentPage : service.currentPage = response.page
  pageSize : service.pageSize = response.size
  totalPages : service.totalPages = response.pages

end UserManagementService

namespace UserManagement

/-- Nothing was rendered yet. With a request sent, the view waits or has failed. -/
structure Untouched (management : UserManagement) : Prop where
  users : management.service.users = []
  totalPages : management.service.totalPages = 0
  waits : management.requests ≠ [] →
    management.service.isLoading = true ∨ management.service.error ≠ none

/-- Every response in the signals satisfies `holds`, and the service renders one of
them or none so far. -/
structure Sourced (holds : PaginatedUsersResponse → Prop) (management : UserManagement) :
    Prop where
  requests : ∀ request ∈ management.requests, ∀ response,
    request.signals.data = some response → holds response
  answered : ∀ request ∈ management.requests, request.signals.isLoading = false →
    request.signals.data ≠ none ∨ request.signals.error ≠ none
  service : (∃ response, holds response ∧ management.service.Renders response) ∨
    management.Untouched

section Sourced

variable {holds weaker : PaginatedUsersResponse → Prop} {management : UserManagement}

theorem Sourced.initial : Sourced holds initial :=
  ⟨nofun, nofun, Or.inr ⟨rfl, rfl, fun sent => absurd rfl sent⟩⟩

theorem Sourced.mono (sourced : Sourced holds management)
    (weaken : ∀ response, holds response → weaker response) : Sourced weaker management := by
  refine ⟨?_, sourced.answered, ?_⟩
  · intro request member response isData
    exact weaken response (sourced.requests request member response isData)
  · rcases sourced.service with ⟨response, held, renders⟩ | untouched
    · exact Or.inl ⟨response, weaken response held, renders⟩
    · exact Or.inr untouched

theorem Sourced.fetchAllUsers (sourced : Sourced holds management) (page size : Nat) :
    Sourced holds (management.step (.fetchAllUsers page size)) := by
  have fresh : ∀ request ∈ (management.step (.fetchAllUsers page size)).requests,
      request ∈ management.requests ∨ request.signals = SignalizerService.createSignals := by
    intro request member
    rcases List.mem_append.mp member with older | newest
    · exact Or.inl older
    · rw [List.mem_singleton.mp newest]
      exact Or.inr rfl
  refine ⟨?_, ?_, ?_⟩
  · intro request member response isData
    rcases fresh request member with older | created
    · exact sourced.requests request older response isData
    · rw [created] at isData
      cases isData
  · intro request member settled
    rcases fresh request member with older | created
    · exact sourced.answered request older settled
    · rw [created] at settled
      cases settled
  · rcases sourced.service with ⟨response, held, renders⟩ | untouched
    · exact Or.inl ⟨response, held, renders.users, renders.totalUsers, renders.currentPage,
        renders.pageSize, renders.totalPages⟩
    · exact Or.inr ⟨untouched.users, untouched.totalPages, fun _ => Or.inl rfl⟩

theorem Sourced.deliver (sourced : Sourced holds management) (id : Nat)
    {response : Except HttpErrorResponse PaginatedUsersResponse}
    (held : ∀ page, response = .ok page → holds page) :
    Sourced holds (management.step (.deliver id response)) := by
  simp only [step]
  cases found : management.requests[id]? with
  | none => exact sourced
  | some request =>
      by_cases loading : request.signals.isLoading = true
      · simp only [if_pos loading]
        have fresh : ∀ other ∈ management.requests.set id { request with
              signals := SignalizerService.executeRequest request.signals response },
            other ∈ management.requests ∨
              other.signals = SignalizerService.executeRequest request.signals response := by
          intro other member
          rcases List.mem_or_eq_of_mem_set member with older | rfl
          · exact Or.inl older
          · exact Or.inr rfl
        refine ⟨?_, ?_, ?_⟩
        · intro other member page isData
          rcases fresh other member with older | executed
          · exact sourced.requests other older page isData
          · rw [executed] at isData
            cases response with
            | ok answered =>
                obtain rfl : answered = page := Option.some.inj isData
                exact held answered rfl
            | error error =>
                exact sourced.requests request (List.mem_of_getElem? found) page isData
        · intro other member settled
          rcases fresh other member with older | executed
          · exact sourced.answered other older settled
          · rw [executed]
            cases response with
            | ok answered => exact Or.inl (Option.some_ne_none _)
            | error error => exact Or.inr (Option.some_ne_none _)
        · rcases sourced.service with shows | untouched
          · exact Or.inl shows
          · refine Or.inr ⟨untouched.users, untouched.totalPages, fun _ => untouched.waits ?_⟩
            exact List.ne_nil_of_mem (List.mem_of_getElem? found)
      · simp only [if_neg loading]
        exact sourced

/-- The service, of a management with these requests, renders a response that holds
or nothing yet. -/
def SourcedService (holds : PaginatedUsersResponse → Prop) (requests : List PageRequest)
    (service : UserManagementService) : Prop :=
  (∃ response, holds response ∧ service.Renders response) ∨ (⟨service, requests, []⟩ :
    UserManagement).Untouched

/-- Mirroring the signals of a sourced request keeps the service sourced. -/
theorem sourcedService_sync {requests : List PageRequest} {service : UserManagementService}
    (sourced : SourcedService holds requests service) (signals : ApiSignals PaginatedUsersResponse)
    (data : ∀ response, signals.data = some response → holds response)
    (answered : signals.isLoading = false → signals.data ≠ none ∨ signals.error ≠ none) :
    SourcedService holds requests (service.sync signals) := by
  obtain ⟨isLoading, isData, error⟩ := signals
  cases isData with
  | some response =>
      left
      refine ⟨response, data response rfl, ?_⟩
      cases error <;> exact ⟨rfl, rfl, rfl, rfl, rfl⟩
  | none =>
      rcases sourced with ⟨response, held, renders⟩ | untouched
      · left
        refine ⟨response, held, ?_⟩
        cases error <;>
          exact ⟨renders.users, renders.totalUsers, renders.currentPage, renders.pageSize,
            renders.totalPages⟩
      · right
        cases error with
        | some raised =>
            exact ⟨untouched.users, untouched.totalPages, fun _ => Or.inr (Option.some_ne_none _)⟩
        | none =>
            refine ⟨untouched.users, untouched.totalPages, fun _ => Or.inl ?_⟩
            cases isLoading with
            | true => rfl
            | false => simp at answered

theorem Sourced.flush (sourced : Sourced holds management) :
    Sourced holds (management.step .flush) := by
  have run : ∀ (effects : List SyncEffect) (service : UserManagementService),
      SourcedService holds management.requests service →
        SourcedService holds management.requests
          (effects.foldl management.runEffect service) := by
    intro effects
    induction effects with
    | nil => exact fun service before => before
    | cons effect rest inductionHypothesis =>
        intro service before
        apply inductionHypothesis
        unfold runEffect
        cases pending : effect.pending with
        | false => exact before
        | true =>
            cases found : management.requests[effect.request]? with
            | none => exact before
            | some request =>
                have member := List.mem_of_getElem? found
                exact sourcedService_sync before request.signals
                  (sourced.requests request member) (sourced.answered request member)
  refine ⟨sourced.requests, sourced.answered, ?_⟩
  rcases run management.effects management.service
    (sourced.service.imp id fun untouched => ⟨untouched.users, untouched.totalPages,
      untouched.waits⟩) with shows | untouched
  · exact Or.inl shows
  · exact Or.inr ⟨untouched.users, untouched.totalPages, untouched.waits⟩

end Sourced

end UserManagement

end DemoBase.Frontend
