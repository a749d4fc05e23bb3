import Mathlib.Data.List.Forall2
import DemoBase.Backend.UserListing
import DemoBase.EndToEnd.BrowserSession
import DemoBase.Frontend.AdminView

/-!
Owns the admin view in front of the backend that pages its users. People register
while the view pages through them, also between the count and the select of one
request, each execution of the query returns the rows in an order of its own, and
answers overtake each other.
-/

set_option autoImplicit false

namespace DemoBase.EndToEnd

open DemoBase.Foundations DemoBase.Foundations.Paging DemoBase.Backend

open DemoBase.Frontend (UserInfo HttpErrorResponse PaginatedUsersResponse UserManagement
  UserManagementService ViewAction)

/-- `Page[GetUserResponseDto]` as the frontend reads it; a row that does not
serialize fails the whole response. -/
def usersResponse (uuid4 : UUID4) (page : Page) : Except PyException PaginatedUsersResponse := do
  let dtos ← page.items.mapM fun user => GetUserResponseDto.serialize uuid4 (some user)
  return ⟨dtos.map userInfoOf, page.total, page.page, page.size, page.pages⟩

/-- The user is this row as the route serializes it. -/
def DescribesRow (uuid4 : UUID4) (row : User) (user : UserInfo) : Prop :=
  ∃ dto, GetUserResponseDto.serialize uuid4 (some row) = .ok dto ∧ user = userInfoOf dto

/-- The backend, the view, the page each request asked for, the totals counted for
requests, and the answers on their way. -/
structure UsersSystem where
  server : ServerState
  management : UserManagement
  asked : List Nat
  totals : List (Nat × Nat)
  answers : List (Nat × PaginatedUsersResponse)

/-- The handler of a request `counts` and then `selects`, from rows in this order;
`fails` is any error answer. -/
inductive UsersAction where
  | elsewhere (event : Event)
  | view (action : ViewAction)
  | counts (id : Nat)
  | selects (id : Nat) (order : List User)
  | arrives (id : Nat)
  | fails (id : Nat) (error : HttpErrorResponse)
  | flush

namespace UsersSystem

def opened (server : ServerState) : UsersSystem := ⟨server, .initial, [], [], []⟩

/-- The view asks for a page. -/
def ask (system : UsersSystem) (page : Nat) : UsersSystem :=
  { system with
    management := Frontend.AdminViewComponent.loadUsers system.management page
    asked := system.asked ++ [page] }

/-- The first statement of the handler, once for each request. -/
def count (system : UsersSystem) (id : Nat) : UsersSystem :=
  match system.asked[id]?, system.totals.lookup id with
  | some _, none =>
      { system with totals := (id, countUsers system.server.users) :: system.totals }
  | _, _ => system

end UsersSystem

namespace Production

variable (self : Production)

/-- The parameters of a request of the view. -/
def pageParams (page : Nat) (positive : 1 ≤ page) : Params :=
  ⟨⟨page, 10, positive, Nat.le_add_left 1 9⟩, Nat.le_add_left 10 90⟩

/-- The response to a request for this page, when the rows come in this order. -/
def usersPage (total : Nat) (users : UserTable) (order : List User) (page : Nat) :
    Option PaginatedUsersResponse :=
  if perm : order.Perm users.rows then
    if positive : 1 ≤ page then
      match usersResponse self.libraries.uuid4
        (getAllUsers total ⟨order, perm⟩ (pageParams page positive).toAbstractParams) with
      | .ok response => some response
      | .error _ => none
    else none
  else none

/-- The second statement of the handler, on the table as it is now, and its answer. -/
def select (system : UsersSystem) (id : Nat) (order : List User) : UsersSystem :=
  match system.asked[id]?, system.totals.lookup id, system.answers.lookup id with
  | some page, some total, none =>
      match self.usersPage total system.server.users order page with
      | some response => { system with answers := (id, response) :: system.answers }
      | none => system
  | _, _, _ => system

def usersStep (system : UsersSystem) : UsersAction → UsersSystem
  | .elsewhere event => { system with server := self.server.machine.next system.server event }
  | .view action =>
      match Frontend.AdminViewComponent.loads system.management.service.toUserSignals action with
      | none => system
      | some page => system.ask page
  | .counts id => system.count id
  | .selects id order => self.select system id order
  | .arrives id =>
      match system.answers.lookup id with
      | none => system
      | some response =>
          { system with
            management := system.management.step (.deliver id (.ok response))
            answers := system.answers.filter fun answered => answered.1 ≠ id }
  | .fails id error =>
      { system with
        management := system.management.step (.deliver id (.error error))
        answers := system.answers.filter fun answered => answered.1 ≠ id }
  | .flush => { system with management := system.management.step .flush }

def usersMachine : Machine UsersSystem UsersAction Unit :=
  ⟨fun system action => (self.usersStep system action, ())⟩

/-- The total is a count of the table at some moment between these two, and the page
is one the table had then. -/
def Counted (start now : UserTable) (page total : Nat) : Prop :=
  ∃ counted : UserTable, (∀ row ∈ start.rows, row ∈ counted.rows) ∧
    (∀ row ∈ counted.rows, row ∈ now.rows) ∧ total = countUsers counted ∧
      (page = 1 ∨ page ≤ pageCount total 10)

/-- The response lists a page selected from the table at some moment between these two
states, under a total counted at some moment before. -/
def Listed (start now : ServerState) (response : PaginatedUsersResponse) : Prop :=
  ∃ (total : Nat) (selected : UserTable) (execution : Execution selected) (params : Params),
    Counted start.users selected params.page total ∧
      (∀ row ∈ selected.rows, row ∈ now.users.rows) ∧ params.size = 10 ∧
      usersResponse self.libraries.uuid4
        (getAllUsers total execution params.toAbstractParams) = .ok response

variable {self}

/-! ### What a response lists -/

section Listed

variable {start now after : ServerState} {response : PaginatedUsersResponse}

/-- A list is traversed without error exactly when each element is. -/
theorem mapM_eq_ok {Source Target Error : Type} (f : Source → Except Error Target)
    (sources : List Source) (targets : List Target) :
    sources.mapM f = .ok targets ↔
      List.Forall₂ (fun source target => f source = .ok target) sources targets := by
  induction sources generalizing targets with
  | nil => cases targets <;> simp [pure, Except.pure]
  | cons source rest inductionHypothesis =>
      rw [List.mapM_cons]
      cases first : f source with
      | error error => simp [first, bind, Except.bind, List.forall₂_cons_left_iff]
      | ok target =>
          cases others : rest.mapM f with
          | error error =>
              have none : ∀ more, ¬ List.Forall₂ (fun source target => f source = .ok target)
                  rest more := by
                intro more traversed
                have succeeds := (inductionHypothesis more).mpr traversed
                rw [others] at succeeds
                cases succeeds
              simp [first, bind, Except.bind, List.forall₂_cons_left_iff, none]
          | ok more =>
              have only : ∀ other, List.Forall₂ (fun source target => f source = .ok target)
                  rest other ↔ more = other := by
                intro other
                rw [← inductionHypothesis, others, Except.ok.injEq]
              simp [first, bind, Except.bind, pure, Except.pure, List.forall₂_cons_left_iff, only,
                eq_comm]

/-- What the header and the items of a response say. -/
theorem usersResponse_ok {uuid4 : UUID4} {page : Page}
    (serialized : usersResponse uuid4 page = .ok response) :
    response.total = page.total ∧ response.page = page.page ∧ response.size = page.size ∧
      response.pages = page.pages ∧
      List.Forall₂ (DescribesRow uuid4) page.items response.items := by
  unfold usersResponse at serialized
  cases traversed : page.items.mapM
    (fun user => GetUserResponseDto.serialize uuid4 (some user)) with
  | error error => simp [traversed, bind, Except.bind] at serialized
  | ok dtos =>
      obtain rfl : (⟨dtos.map userInfoOf, page.total, page.page, page.size, page.pages⟩ :
          PaginatedUsersResponse) = response := by
        simpa [traversed, bind, Except.bind, pure, Except.pure] using serialized
      refine ⟨rfl, rfl, rfl, rfl, ?_⟩
      show List.Forall₂ (DescribesRow uuid4) page.items (dtos.map userInfoOf)
      rw [List.forall₂_map_right_iff]
      apply ((mapM_eq_ok _ _ _).mp traversed).imp
      intro row dto isDto
      exact ⟨dto, isDto, rfl⟩

theorem length_slice {α : Type} (size skipped : Nat) (elements : List α) :
    (slice size skipped elements).length = min size (elements.length - skipped * size) := by
  unfold slice
  rw [List.length_take, List.length_drop]

theorem rows_length_le {few many : UserTable} (inside : ∀ row ∈ few.rows, row ∈ many.rows) :
    few.rows.length ≤ many.rows.length :=
  (few.rows_nodup.subperm inside).length_le

theorem pageCount_mono {few many : Nat} (le : few ≤ many) :
    pageCount few 10 ≤ pageCount many 10 := by
  unfold pageCount
  omega

theorem Counted.bounds {first last : UserTable} {page total : Nat}
    (counts : Counted first last page total) :
    first.rows.length ≤ total ∧ total ≤ last.rows.length := by
  obtain ⟨counted, grown, kept, rfl, -⟩ := counts
  exact ⟨rows_length_le grown, rows_length_le kept⟩

theorem Counted.later {first last after : UserTable} {page total : Nat}
    (counts : Counted first last page total) (persists : ∀ row ∈ last.rows, row ∈ after.rows) :
    Counted first after page total := by
  obtain ⟨counted, grown, kept, rest⟩ := counts
  exact ⟨counted, grown, fun row member => persists row (kept row member), rest⟩

theorem Listed.total_bounds (listed : self.Listed start now response) :
    start.users.rows.length ≤ response.total ∧ response.total ≤ now.users.rows.length := by
  obtain ⟨total, selected, execution, params, counts, kept, -, serialized⟩ := listed
  have sameTotal : response.total = total := (usersResponse_ok serialized).1
  rw [sameTotal]
  exact ⟨counts.bounds.1, Nat.le_trans counts.bounds.2 (rows_length_le kept)⟩

/-- The numbers of a listed page fit each other. Its rows are those of a table that had
at least the counted total of them. -/
theorem Listed.numbers (listed : self.Listed start now response) :
    response.size = 10 ∧ 1 ≤ response.page ∧ response.pages = pageCount response.total 10 ∧
      (response.page = 1 ∨ response.page ≤ response.pages) ∧
      ∃ many, response.total ≤ many ∧ many ≤ now.users.rows.length ∧
        response.items.length = min 10 (many - (response.page - 1) * 10) := by
  obtain ⟨total, selected, execution, params, counts, kept, size, serialized⟩ := listed
  rcases usersResponse_ok serialized with ⟨total', page, size', pages, described⟩
  have sameSize : response.size = params.size := size'
  have samePage : response.page = params.page := page
  have sameTotal : response.total = total := total'
  have samePages : response.pages = pageCount total params.size := pages
  have sameLength : response.items.length =
      (slice params.size (params.page - 1) execution.rows).length := described.length_eq.symm
  rw [length_slice, execution.perm.length_eq, size, ← samePage] at sameLength
  rw [size, ← sameTotal] at samePages
  have many := counts.bounds.2
  obtain ⟨-, -, -, -, exists'⟩ := counts
  rw [← sameTotal, ← samePage, ← samePages] at exists'
  rw [← sameTotal] at many
  exact ⟨sameSize.trans size, samePage ▸ params.pagePositive, samePages, exists',
    selected.rows.length, many, rows_length_le kept, sameLength⟩

/-- The listed users describe rows of the table, no row twice. -/
theorem Listed.describes (listed : self.Listed start now response) :
    ∃ rows : List User, rows.Nodup ∧ (∀ row ∈ rows, row ∈ now.users.rows) ∧
      List.Forall₂ (DescribesRow self.libraries.uuid4) rows response.items := by
  obtain ⟨total, selected, execution, params, -, kept, -, serialized⟩ := listed
  have within : (slice params.size (params.page - 1) execution.rows).Sublist execution.rows :=
    (List.take_sublist _ _).trans (List.drop_sublist _ _)
  refine ⟨slice params.size (params.page - 1) execution.rows, ?_, ?_,
    (usersResponse_ok serialized).2.2.2.2⟩
  · exact within.nodup (execution.perm.nodup_iff.mpr selected.rows_nodup)
  · intro row member
    exact kept row (execution.perm.mem_iff.mp (within.subset member))

theorem Listed.later (listed : self.Listed start now response)
    (persists : Server.RowsPersist now after) : self.Listed start after response := by
  obtain ⟨total, selected, execution, params, counts, kept, rest⟩ := listed
  exact ⟨total, selected, execution, params, counts,
    fun row member => persists row (kept row member), rest⟩

end Listed

/-! ### Runs -/

/-- Requests ask for pages the table has, and all that is rendered or on its way lists
pages of the table. -/
structure PagesConsistent (production : Production) (start : ServerState)
    (system : UsersSystem) : Prop where
  persists : Server.RowsPersist start system.server
  counted : system.asked.length = system.management.requests.length
  asked : ∀ page ∈ system.asked,
    page = 1 ∨ 1 ≤ page ∧ page ≤ pageCount system.server.users.rows.length 10
  totals : ∀ counted ∈ system.totals, ∃ page, system.asked[counted.1]? = some page ∧
    Counted start.users system.server.users page counted.2
  answers : ∀ answered ∈ system.answers,
    answered.1 < system.asked.length ∧ production.Listed start system.server answered.2
  sourced : system.management.Sourced (production.Listed start system.server)
  refines : ∃ events, UserManagement.Refines events system.management

section Runs

variable {start : ServerState} {before : UsersSystem}

theorem PagesConsistent.opened (start : ServerState) :
    self.PagesConsistent start (.opened start) :=
  ⟨fun _ member => member, rfl, nofun, nofun, nofun, .initial, [], .initial⟩

/-- A page of the table as it is, in an order of its rows, is listed. -/
theorem listed_of_usersPage {state : ServerState} {order : List User} {page total : Nat}
    {response : PaginatedUsersResponse} (counts : Counted start.users state.users page total)
    (served : self.usersPage total state.users order page = some response) :
    self.Listed start state response := by
  unfold usersPage at served
  split at served
  · rename_i perm
    split at served
    · rename_i positive
      split at served
      · rename_i serialized
        obtain rfl := Option.some.inj served
        exact ⟨total, state.users, ⟨order, perm⟩, pageParams page positive, counts,
          fun _ member => member, rfl, serialized⟩
      · cases served
    · cases served
  · cases served

namespace PagesConsistent

/-- What the view may ask for is a page of the table. -/
theorem loads_page (consistent : self.PagesConsistent start before) {action : ViewAction}
    {page : Nat} (loaded : Frontend.AdminViewComponent.loads
      before.management.service.toUserSignals action = some page) :
    page = 1 ∨ 1 ≤ page ∧ page ≤ pageCount before.server.users.rows.length 10 := by
  rcases Frontend.AdminViewComponent.loads_bounded loaded with isFirst | ⟨positive, told⟩
  · exact Or.inl isFirst
  · right
    refine ⟨positive, Nat.le_trans told ?_⟩
    rcases consistent.sourced.service with ⟨response, listed, renders⟩ | untouched
    · rw [renders.totalPages, listed.numbers.2.2.1]
      exact pageCount_mono listed.total_bounds.2
    · rw [untouched.totalPages]
      exact Nat.zero_le _

theorem elsewhere (consistent : self.PagesConsistent start before) (event : Event) :
    self.PagesConsistent start (self.usersStep before (.elsewhere event)) := by
  have kept : Server.RowsPersist before.server (self.server.machine.next before.server event) :=
    Server.rowsPersist_next before.server event
  refine ⟨?_, consistent.counted, ?_, ?_, ?_, ?_, consistent.refines⟩
  · exact fun row member => kept row (consistent.persists row member)
  · intro page member
    refine (consistent.asked page member).imp id fun inside => ⟨inside.1, ?_⟩
    exact Nat.le_trans inside.2 (pageCount_mono (rows_length_le kept))
  · intro counted member
    rcases consistent.totals counted member with ⟨page, asked, counts⟩
    exact ⟨page, asked, counts.later kept⟩
  · intro answered member
    rcases consistent.answers answered member with ⟨sent, listed⟩
    exact ⟨sent, listed.later kept⟩
  · exact consistent.sourced.mono fun response listed => listed.later kept

theorem ask (consistent : self.PagesConsistent start before) {page : Nat}
    (exists' : page = 1 ∨ 1 ≤ page ∧ page ≤ pageCount before.server.users.rows.length 10) :
    self.PagesConsistent start (before.ask page) := by
  obtain ⟨events, refines⟩ := consistent.refines
  refine ⟨consistent.persists, ?_, ?_, ?_, ?_, ?_, ?_⟩
  · show (before.asked ++ [page]).length = (before.management.requests ++ [_]).length
    rw [List.length_append, List.length_append, consistent.counted]
    rfl
  · intro other member
    rcases List.mem_append.mp member with older | newest
    · exact consistent.asked other older
    · rw [List.mem_singleton.mp newest]
      exact exists'
  · intro counted member
    rcases consistent.totals counted member with ⟨other, asked, counts⟩
    have older := (List.getElem?_eq_some_iff.mp asked).1
    exact ⟨other, (List.getElem?_append_left older).trans asked, counts⟩
  · intro answered member
    rcases consistent.answers answered member with ⟨sent, listed⟩
    refine ⟨?_, listed⟩
    show answered.1 < (before.asked ++ [page]).length
    rw [List.length_append]
    omega
  · exact consistent.sourced.fetchAllUsers page 10
  · exact ⟨_, refines.step (.fetchAllUsers page 10)⟩

theorem count (consistent : self.PagesConsistent start before) (id : Nat) :
    self.PagesConsistent start (before.count id) := by
  unfold UsersSystem.count
  split
  · rename_i page asked uncounted
    refine ⟨consistent.persists, consistent.counted, consistent.asked, ?_, consistent.answers,
      consistent.sourced, consistent.refines⟩
    intro counted member
    rcases List.mem_cons.mp member with rfl | older
    · have exists' := consistent.asked page (List.mem_of_getElem? asked)
      exact ⟨page, asked, before.server.users, consistent.persists, fun _ member => member, rfl,
        exists'.imp_right And.right⟩
    · exact consistent.totals counted older
  · exact consistent

theorem select (consistent : self.PagesConsistent start before) (id : Nat) (order : List User) :
    self.PagesConsistent start (self.select before id order) := by
  unfold Production.select
  split
  · rename_i page total asked counted unanswered
    split
    · rename_i response served
      refine ⟨consistent.persists, consistent.counted, consistent.asked, consistent.totals, ?_,
        consistent.sourced, consistent.refines⟩
      intro answered member
      rcases List.mem_cons.mp member with rfl | older
      · rcases consistent.totals _ (Dict.mem_of_lookup counted) with ⟨other, same, counts⟩
        obtain rfl : page = other := Option.some.inj (asked.symm.trans same)
        exact ⟨(List.getElem?_eq_some_iff.mp asked).1, listed_of_usersPage counts served⟩
      · exact consistent.answers answered older
    · exact consistent
  · exact consistent

theorem deliver (consistent : self.PagesConsistent start before) (id : Nat)
    {response : Except HttpErrorResponse PaginatedUsersResponse}
    (listed : ∀ page, response = .ok page → self.Listed start before.server page)
    {answers : List (Nat × PaginatedUsersResponse)}
    (fewer : ∀ answered ∈ answers, answered ∈ before.answers) :
    self.PagesConsistent start
      { before with management := before.management.step (.deliver id response), answers } := by
  obtain ⟨events, refines⟩ := consistent.refines
  have sameLength : (before.management.step (.deliver id response)).requests.length =
      before.management.requests.length := by
    simp only [UserManagement.step]
    split
    · rfl
    · split
      · exact List.length_set
      · rfl
  refine ⟨consistent.persists, consistent.counted.trans sameLength.symm, consistent.asked,
    consistent.totals, ?_, consistent.sourced.deliver id listed, _, refines.step (.deliver id response)⟩
  intro answered member
  exact consistent.answers answered (fewer answered member)

theorem flush (consistent : self.PagesConsistent start before) :
    self.PagesConsistent start (self.usersStep before .flush) := by
  obtain ⟨events, refines⟩ := consistent.refines
  exact ⟨consistent.persists, consistent.counted, consistent.asked, consistent.totals,
    consistent.answers, consistent.sourced.flush, _, refines.step .flush⟩

theorem next (consistent : self.PagesConsistent start before) (action : UsersAction) :
    self.PagesConsistent start (self.usersStep before action) := by
  cases action with
  | elsewhere event => exact consistent.elsewhere event
  | view action =>
      simp only [usersStep]
      split
      · exact consistent
      · rename_i page loaded
        exact consistent.ask (consistent.loads_page loaded)
  | counts id => exact consistent.count id
  | selects id order => exact consistent.select id order
  | arrives id =>
      simp only [usersStep]
      split
      · exact consistent
      · rename_i response found
        refine consistent.deliver id ?_ fun _ member => List.mem_of_mem_filter member
        intro page isPage
        obtain rfl := Except.ok.inj isPage
        exact (consistent.answers _ (Dict.mem_of_lookup found)).2
  | fails id error =>
      refine consistent.deliver id ?_ fun _ member => List.mem_of_mem_filter member
      intro page impossible
      cases impossible
  | flush => exact consistent.flush

end PagesConsistent

theorem pagesConsistent_of_run {environment : Machine.Environment UsersSystem UsersAction Unit}
    {past : Machine.History UsersSystem UsersAction Unit} {system : UsersSystem}
    (run : Machine.Run self.usersMachine environment (.opened start) past system) :
    self.PagesConsistent start system := by
  apply run.invariant
  · exact PagesConsistent.opened start
  · intro earlier before action _ _ consistent
    exact consistent.next action

variable {past : Machine.History UsersSystem UsersAction Unit} {system : UsersSystem}

/-- A rendered table lists at most ten accounts of the table in the backend, none of
them twice, and numbers them within the accounts there are. Its total lies between the
accounts at the start and those there are, and wherever pages to go to are rendered,
the shown page is one of them. -/
theorem rendered_table_lists_accounts
    (run : Machine.Run self.usersMachine Machine.unrestricted (.opened start) past system)
    (rendered : system.management.service.rendersTable = true) :
    system.management.service.users.length ≤ 10 ∧
      (∀ index < system.management.service.users.length,
        1 ≤ system.management.service.rowNumber index ∧
          system.management.service.rowNumber index ≤ system.server.users.rows.length) ∧
      (start.users.rows.length ≤ system.management.service.totalUsers ∧
        system.management.service.totalUsers ≤ system.server.users.rows.length) ∧
      (system.management.service.rendersPagination = true →
        system.management.service.currentPage ∈ system.management.service.paginationPages) ∧
      ∃ rows : List User, rows.Nodup ∧ (∀ row ∈ rows, row ∈ system.server.users.rows) ∧
        List.Forall₂ (DescribesRow self.libraries.uuid4) rows
          system.management.service.users := by
  have nonempty : 0 < system.management.service.users.length := by
    simp only [Frontend.UserSignals.rendersTable, Bool.and_eq_true, decide_eq_true_eq] at rendered
    exact rendered.2
  rcases (pagesConsistent_of_run run).sourced.service with ⟨response, listed, renders⟩ | untouched
  · obtain ⟨size, positive, pages, inside, many, counted, kept, length⟩ := listed.numbers
    rw [← renders.users] at length
    have shownPage := renders.currentPage
    refine ⟨?_, ?_, ?_, ?_, ?_⟩
    · omega
    · intro index below
      unfold Frontend.UserSignals.rowNumber
      rw [shownPage, renders.pageSize, size]
      omega
    · rw [renders.totalUsers]
      exact listed.total_bounds
    · intro paginated
      simp only [Frontend.UserSignals.rendersPagination, Bool.and_eq_true,
        decide_eq_true_eq] at paginated
      have several := paginated.2
      rw [renders.totalPages] at several
      rw [Frontend.UserSignals.mem_paginationPages, renders.totalPages, shownPage]
      omega
    · rw [renders.users]
      exact listed.describes
  · rw [untouched.users] at nonempty
    cases nonempty

/-- Where there is an account at all, a view that asked for users never says that
there are none, and it never asks for a page the table does not have. -/
theorem view_never_asks_beyond
    (run : Machine.Run self.usersMachine Machine.unrestricted (.opened start) past system)
    (someone : start.users.rows ≠ []) :
    (∀ page ∈ system.asked, 1 ≤ page ∧ page ≤ pageCount system.server.users.rows.length 10) ∧
      (system.asked ≠ [] → system.management.service.rendersEmpty = false) := by
  have consistent := pagesConsistent_of_run run
  have manyStart := List.length_pos_iff.mpr someone
  have many := rows_length_le consistent.persists
  constructor
  · intro page member
    rcases consistent.asked page member with rfl | inside
    · refine ⟨Nat.le_refl 1, ?_⟩
      unfold pageCount
      omega
    · exact inside
  · intro sent
    have requested : system.management.requests ≠ [] := by
      rw [← List.length_pos_iff, ← consistent.counted]
      exact List.length_pos_iff.mpr sent
    rw [Bool.eq_false_iff]
    intro empty
    simp only [Frontend.UserSignals.rendersEmpty, Bool.and_eq_true, decide_eq_true_eq,
      Bool.not_eq_true', Option.isNone_iff_eq_none] at empty
    obtain ⟨⟨settled, noError⟩, nobody⟩ := empty
    rcases consistent.sourced.service with ⟨response, listed, renders⟩ | untouched
    · obtain ⟨-, positive, pages, inside, many, counted, -, length⟩ := listed.numbers
      have total := listed.total_bounds.1
      rw [renders.users] at nobody
      rw [pages] at inside
      unfold pageCount at inside
      omega
    · rcases untouched.waits requested with loading | failed
      · rw [settled] at loading
        cases loading
      · exact failed noError

/-! ### Walking through the pages -/

/-- The view acts and gets the answer, from rows in this order. -/
def visit (self : Production) (order : List User) (system : UsersSystem) (action : ViewAction) :
    UsersSystem :=
  [.view action, .flush, .counts system.asked.length, .selects system.asked.length order,
    .arrives system.asked.length, .flush].foldl self.usersMachine.next system

/-- Opening the view and going to the next page this many times. -/
def walk (self : Production) (order : List User) (system : UsersSystem) : Nat → UsersSystem
  | 0 => self.visit order system .opens
  | pressed + 1 => self.visit order (self.walk order system pressed) .nextPage

theorem lookup_fresh {Value : Type} {entries : List (Nat × Value)} {fresh : Nat}
    (older : ∀ entry ∈ entries, entry.1 < fresh) : entries.lookup fresh = none := by
  rw [List.lookup_eq_none_iff]
  intro entry member
  have earlier := older entry member
  simp only [bne_iff_ne, ne_eq]
  omega

theorem count_uncounted {id page : Nat} (asked : system.asked[id]? = some page)
    (uncounted : system.totals.lookup id = none) :
    system.count id =
      { system with totals := (id, countUsers system.server.users) :: system.totals } := by
  simp only [UsersSystem.count, asked, uncounted]

theorem select_counted {id page total : Nat} (asked : system.asked[id]? = some page)
    (counted : system.totals.lookup id = some total) (unanswered : system.answers.lookup id = none)
    {order : List User} {response : PaginatedUsersResponse}
    (served : self.usersPage total system.server.users order page = some response) :
    self.select system id order =
      { system with answers := (id, response) :: system.answers } := by
  simp only [select, asked, counted, unanswered, served]

/-- What the actions of a visit do to the view. -/
theorem visit_management (consistent : self.PagesConsistent start system) {action : ViewAction}
    {page : Nat} (loaded : Frontend.AdminViewComponent.loads
      system.management.service.toUserSignals action = some page)
    {order : List User} {response : PaginatedUsersResponse}
    (served : self.usersPage (countUsers system.server.users) system.server.users order page =
      some response) :
    (self.visit order system action).management =
        ((((system.management.step (.fetchAllUsers page 10)).step .flush).step
          (.deliver system.asked.length (.ok response))).step .flush) ∧
      (self.visit order system action).server = system.server := by
  have asks : self.usersStep system (.view action) = system.ask page := by
    simp only [usersStep, loaded]
  have isNewest : (system.asked ++ [page])[system.asked.length]? = some page := by
    simp
  have uncounted : system.totals.lookup system.asked.length = none := by
    apply lookup_fresh
    intro counted member
    rcases consistent.totals counted member with ⟨other, sent, -⟩
    exact (List.getElem?_eq_some_iff.mp sent).1
  have unanswered : system.answers.lookup system.asked.length = none :=
    lookup_fresh fun answered member => (consistent.answers answered member).1
  have visited : self.visit order system action =
      self.usersStep (self.usersStep (self.select ((self.usersStep (self.usersStep system
        (.view action)) .flush).count system.asked.length) system.asked.length order)
          (.arrives system.asked.length)) .flush :=
    rfl
  have counts : (self.usersStep (system.ask page) .flush).count system.asked.length =
      { self.usersStep (system.ask page) .flush with
        totals := (system.asked.length, countUsers system.server.users) :: system.totals } :=
    count_uncounted isNewest uncounted
  have selects : self.select { self.usersStep (system.ask page) .flush with
        totals := (system.asked.length, countUsers system.server.users) :: system.totals }
      system.asked.length order =
      { self.usersStep (system.ask page) .flush with
        totals := (system.asked.length, countUsers system.server.users) :: system.totals
        answers := (system.asked.length, response) :: system.answers } := by
    apply select_counted
    · exact isNewest
    · exact List.lookup_cons_self
    · exact unanswered
    · exact served
  rw [visited, asks, counts, selects]
  simp only [usersStep, UsersSystem.ask, List.lookup_cons_self]
  exact ⟨rfl, trivial⟩

/-- A visit renders the response it gets. -/
theorem visit_renders (consistent : self.PagesConsistent start system) {action : ViewAction}
    {page : Nat} (loaded : Frontend.AdminViewComponent.loads
      system.management.service.toUserSignals action = some page)
    {order : List User} {response : PaginatedUsersResponse}
    (served : self.usersPage (countUsers system.server.users) system.server.users order page =
      some response) :
    (self.visit order system action).management.service.toUserSignals =
      ⟨response.items, response.total, response.page, response.size, response.pages, false,
        none⟩ := by
  obtain ⟨events, refines⟩ := consistent.refines
  have isNext : system.asked.length = NewestRequest.issued events := by
    rw [consistent.counted, refines.counted]
  have visited := (((refines.step (.fetchAllUsers page 10)).step .flush).step
    (.deliver system.asked.length (.ok response))).step .flush
  have fresh : NewestRequest.responseTo system.asked.length (.look :: .issue :: events) = none := by
    cases answered : NewestRequest.responseTo system.asked.length events with
    | none => exact answered
    | some first =>
        have issuedBefore := NewestRequest.issued_of_responseTo answered
        omega
  have issued : system.asked.length <
      NewestRequest.issued (.look :: .issue :: events : List (NewestRequest.Event
        HttpErrorResponse PaginatedUsersResponse)) := by
    rw [isNext]
    exact Nat.lt_succ_self _
  have answered := NewestRequest.responseTo_answer_self fresh issued (.ok response)
  have newest : NewestRequest.newest (.answer system.asked.length (.ok response) :: .look ::
      .issue :: events) = some system.asked.length := congrArg some isNext.symm
  have seen : NewestRequest.shown (.look :: .answer system.asked.length (.ok response) :: .look ::
      .issue :: events) = ⟨some response, some response, false, none⟩ := by
    rw [NewestRequest.shown]
    simp only [newest, answered]
    rfl
  rw [(visit_management consistent loaded served).1, visited.signals]
  exact congrArg UserManagement.render seen

theorem consistent_visit (consistent : self.PagesConsistent start system) (order : List User)
    (action : ViewAction) : self.PagesConsistent start (self.visit order system action) := by
  have kept : ∀ (actions : List UsersAction) (before : UsersSystem),
      self.PagesConsistent start before →
        self.PagesConsistent start (actions.foldl self.usersMachine.next before) := by
    intro actions
    induction actions with
    | nil => exact fun before unchanged => unchanged
    | cons first rest inductionHypothesis =>
        intro before consistentBefore
        exact inductionHypothesis _ (consistentBefore.next first)
  exact kept _ _ consistent

/-- Where every row serializes, every page is answered. -/
theorem usersPage_of_serializes {users : UserTable} {order : List User}
    (perm : order.Perm users.rows)
    (serializes : ∀ row ∈ users.rows, ∃ user, DescribesRow self.libraries.uuid4 row user)
    {page : Nat} (positive : 1 ≤ page) :
    ∃ items, self.usersPage (countUsers users) users order page =
        some ⟨items, users.rows.length, page, 10, pageCount users.rows.length 10⟩ ∧
      List.Forall₂ (DescribesRow self.libraries.uuid4) (slice 10 (page - 1) order) items := by
  have total : ∀ rows : List User, (∀ row ∈ rows, row ∈ users.rows) →
      ∃ dtos, rows.mapM (fun user => GetUserResponseDto.serialize self.libraries.uuid4
        (some user)) = .ok dtos := by
    intro rows
    induction rows with
    | nil => exact fun _ => ⟨[], rfl⟩
    | cons row rest inductionHypothesis =>
        intro inside
        rcases serializes row (inside row List.mem_cons_self) with ⟨user, dto, isDto, -⟩
        rcases inductionHypothesis fun other member => inside other (List.mem_cons_of_mem _ member)
          with ⟨more, traversed⟩
        refine ⟨dto :: more, ?_⟩
        rw [mapM_eq_ok] at traversed ⊢
        exact .cons isDto traversed
  have inside : ∀ row ∈ slice 10 (page - 1) order, row ∈ users.rows := fun row member =>
    perm.mem_iff.mp (List.mem_of_mem_drop (List.mem_of_mem_take member))
  rcases total _ inside with ⟨dtos, traversed⟩
  have serialized : usersResponse self.libraries.uuid4
      (getAllUsers (countUsers users) ⟨order, perm⟩
        (pageParams page positive).toAbstractParams) = .ok ⟨dtos.map userInfoOf, users.rows.length, page, 10,
          pageCount users.rows.length 10⟩ := by
    unfold usersResponse
    have sameItems : (getAllUsers (countUsers users) ⟨order, perm⟩
        (pageParams page positive).toAbstractParams).items.mapM (fun user => GetUserResponseDto.serialize self.libraries.uuid4 (some user)) =
          .ok dtos := traversed
    rw [sameItems]
    rfl
  refine ⟨dtos.map userInfoOf, ?_, (usersResponse_ok serialized).2.2.2.2⟩
  unfold usersPage
  rw [dif_pos perm, dif_pos positive, serialized]

/-- After this many presses the next page is rendered. -/
theorem walk_renders (consistent : self.PagesConsistent start system) {order : List User}
    (perm : order.Perm system.server.users.rows)
    (serializes : ∀ row ∈ system.server.users.rows,
      ∃ user, DescribesRow self.libraries.uuid4 row user)
    {pressed : Nat} (below : pressed < pageCount system.server.users.rows.length 10) :
    (∃ items, (self.walk order system pressed).management.service.toUserSignals =
        ⟨items, system.server.users.rows.length, pressed + 1, 10,
          pageCount system.server.users.rows.length 10, false, none⟩ ∧
      List.Forall₂ (DescribesRow self.libraries.uuid4) (slice 10 pressed order) items) ∧
      self.PagesConsistent start (self.walk order system pressed) ∧
      (self.walk order system pressed).server = system.server := by
  induction pressed with
  | zero =>
      rcases usersPage_of_serializes perm serializes (Nat.le_refl 1) with ⟨items, served, described⟩
      have loaded : Frontend.AdminViewComponent.loads
          system.management.service.toUserSignals .opens = some 1 := rfl
      exact ⟨⟨items, visit_renders consistent loaded served, described⟩,
        consistent_visit consistent order .opens, (visit_management consistent loaded served).2⟩
  | succ pressed inductionHypothesis =>
      obtain ⟨⟨shown, signals, -⟩, reached, sameServer⟩ := inductionHypothesis (by omega)
      have loaded : Frontend.AdminViewComponent.loads
          (self.walk order system pressed).management.service.toUserSignals .nextPage =
            some (pressed + 2) := by
        rw [signals]
        exact Frontend.AdminViewComponent.nextPage_eq_some below
      rcases usersPage_of_serializes perm serializes (Nat.le_add_left 1 (pressed + 1)) with
        ⟨items, served, described⟩
      rw [← sameServer] at served
      refine ⟨⟨items, ?_, described⟩, consistent_visit reached order .nextPage, ?_⟩
      · rw [walk, visit_renders reached loaded served, sameServer]
      · exact ((visit_management reached loaded served).2).trans sameServer

theorem forall₂_flatMap_range {Source Target : Type} {related : Source → Target → Prop}
    {sources : Nat → List Source} {targets : Nat → List Target} {count : Nat}
    (all : ∀ index < count, List.Forall₂ related (sources index) (targets index)) :
    List.Forall₂ related ((List.range count).flatMap sources)
      ((List.range count).flatMap targets) := by
  induction count with
  | zero => exact .nil
  | succ count inductionHypothesis =>
      rw [List.range_succ, List.flatMap_append, List.flatMap_append, List.flatMap_singleton,
        List.flatMap_singleton]
      exact List.rel_append (inductionHypothesis fun index below => all index (by omega))
        (all count (by omega))

/-- From every state the view can reach, opening it and going to the next page until
there is none renders every account exactly once and numbers the rows from one on,
when nobody registers meanwhile and the database keeps to one order of the rows. -/
theorem walk_lists_everyone
    (run : Machine.Run self.usersMachine Machine.unrestricted (.opened start) past system)
    {order : List User} (perm : order.Perm system.server.users.rows)
    (serializes : ∀ row ∈ system.server.users.rows,
      ∃ user, DescribesRow self.libraries.uuid4 row user) :
    (∀ pressed < pageCount system.server.users.rows.length 10,
      (self.walk order system pressed).management.service.rendersTable = true ∧
      (∀ index, (self.walk order system pressed).management.service.rowNumber index =
        pressed * 10 + index + 1) ∧
      (Frontend.AdminViewComponent.nextPage
          (self.walk order system pressed).management.service.toUserSignals = none ↔
        pressed + 1 = pageCount system.server.users.rows.length 10)) ∧
    List.Forall₂ (DescribesRow self.libraries.uuid4) order
      ((List.range (pageCount system.server.users.rows.length 10)).flatMap fun pressed =>
        (self.walk order system pressed).management.service.users) := by
  have consistent := pagesConsistent_of_run run
  constructor
  · intro pressed below
    obtain ⟨⟨items, signals, described⟩, -, -⟩ := walk_renders consistent perm serializes below
    rw [signals]
    have nonempty : 0 < items.length := by
      rw [← described.length_eq, length_slice, perm.length_eq]
      unfold pageCount at below
      omega
    refine ⟨?_, ?_, ?_⟩
    · simp [Frontend.UserSignals.rendersTable, nonempty]
    · intro index
      show ((pressed + 1 : Nat) - 1 : Int) * (10 : Nat) + index + 1 = _
      push_cast
      omega
    · by_cases more : pressed + 1 < pageCount system.server.users.rows.length 10
      · rw [Frontend.AdminViewComponent.nextPage_eq_some more]
        exact iff_of_false nofun (by omega)
      · refine iff_of_true ?_ (by omega)
        unfold Frontend.AdminViewComponent.nextPage
        exact if_neg more
  · have whole : pages 10 (fun _ => order) (pageCount order.length 10) = order :=
      pages_whole (by decide) fun _ _ => rfl
    rw [perm.length_eq] at whole
    have all : List.Forall₂ (DescribesRow self.libraries.uuid4)
        (pages 10 (fun _ => order) (pageCount system.server.users.rows.length 10))
        ((List.range (pageCount system.server.users.rows.length 10)).flatMap fun pressed =>
          (self.walk order system pressed).management.service.users) := by
      apply forall₂_flatMap_range
      intro pressed below
      obtain ⟨⟨items, signals, described⟩, -, -⟩ := walk_renders consistent perm serializes below
      rwa [signals]
    rwa [whole] at all

end Runs

/-! ### A table of one administrator -/

private def onePage : Production := ⟨referenceDeployment.config, referenceLibraries⟩

private def openedView : UsersSystem :=
  onePage.walk Server.rootState.users.rows (.opened Server.rootState) 0

private theorem openedView_run : ∃ past,
    Machine.Run onePage.usersMachine Machine.unrestricted (.opened Server.rootState) past
      openedView := by
  have run := onePage.usersMachine.run_unrestricted (.opened Server.rootState)
    [.view .opens, .flush, .counts 0, .selects 0 Server.rootState.users.rows, .arrives 0, .flush]
  rw [Machine.execute_state] at run
  exact ⟨_, run⟩

private theorem root_serializes : ∀ row ∈ Server.rootState.users.rows,
    ∃ user, DescribesRow onePage.libraries.uuid4 row user :=
  fun row _ => ⟨_, ⟨row.userUuid, row.email, row.isActive, row.role⟩, rfl, rfl⟩

private theorem openedView_signals : ∃ items,
    openedView.management.service.toUserSignals = ⟨items, 1, 1, 10, 1, false, none⟩ ∧
      items.length = 1 := by
  obtain ⟨⟨items, signals, described⟩, -, -⟩ := walk_renders
    (@PagesConsistent.opened onePage Server.rootState) (List.Perm.refl _) root_serializes
    (show 0 < pageCount 1 10 by decide)
  exact ⟨items, signals, described.length_eq.symm⟩

theorem rendered_table_lists_accounts_root :
    openedView.management.service.rowNumber 0 = 1 ∧
      openedView.management.service.totalUsers = 1 := by
  obtain ⟨past, run⟩ := openedView_run
  obtain ⟨items, signals, single⟩ := openedView_signals
  have rendered : openedView.management.service.rendersTable = true := by
    rw [signals]
    simp [Frontend.UserSignals.rendersTable, single]
  have first : 0 < openedView.management.service.users.length := by
    rw [signals, single]
    decide
  have lists := rendered_table_lists_accounts run rendered
  have accounts : openedView.server.users.rows.length = 1 := rfl
  have numbered := lists.2.1 0 first
  have total := lists.2.2.1
  have accountsAtStart : Server.rootState.users.rows.length = 1 := rfl
  omega

theorem view_never_asks_beyond_root :
    openedView.asked = [1] ∧ openedView.management.service.rendersEmpty = false := by
  obtain ⟨past, run⟩ := openedView_run
  have someone : Server.rootState.users.rows ≠ [] := nofun
  have asked : openedView.asked = [1] := rfl
  refine ⟨asked, (view_never_asks_beyond run someone).2 ?_⟩
  rw [asked]
  exact nofun

theorem walk_lists_everyone_root :
    openedView.management.service.rendersTable = true ∧
      Frontend.AdminViewComponent.nextPage openedView.management.service.toUserSignals = none := by
  have started : Machine.Run onePage.usersMachine Machine.unrestricted
      (.opened Server.rootState) [] (.opened Server.rootState) := .start
  have walked := (walk_lists_everyone started (List.Perm.refl _) root_serializes).1 0 (by decide)
  exact ⟨walked.1, walked.2.2.mpr (by decide)⟩

end Production

end DemoBase.EndToEnd
