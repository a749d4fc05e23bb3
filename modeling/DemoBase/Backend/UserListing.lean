import DemoBase.Backend.UserRepository
import DemoBase.Foundations.Paging

/-!
Owns `UserRepository.get_all_users` and what a client sees that walks through its
pages. The statement is `select(User)` without `ORDER BY`, so every execution
returns the rows of the table in an order of its own.
-/

set_option autoImplicit false

namespace DemoBase.Backend

open DemoBase.Foundations.KeyedRows DemoBase.Foundations.Paging

/-- The `AbstractParams` that `apaginate` takes: any page of any size. -/
structure AbstractParams where
  page : Nat
  size : Nat
  pagePositive : 1 ≤ page
  sizePositive : 1 ≤ size

/-- `fastapi_pagination.Params`, which the route validates. -/
structure Params extends AbstractParams where
  sizeAtMost : size ≤ 100

/-- `fastapi_pagination.Page`. -/
structure Page where
  items : List User
  total : Nat
  page : Nat
  size : Nat
  pages : Nat
deriving DecidableEq, Repr

/-- The rows one execution of `select(User)` yields: those of the table, in an
order the statement leaves open. -/
structure Execution (users : UserTable) where
  rows : List User
  perm : rows.Perm users.rows

/-- The statement that counts the rows `select(User)` yields. -/
def countUsers (users : UserTable) : Nat := users.rows.length

/-- `apaginate` executes two statements: the count returned `total`, and then the
given statement is executed with `LIMIT` and `OFFSET`, on the table as it is by then. -/
def apaginate (total : Nat) {users : UserTable} (execution : Execution users)
    (params : AbstractParams) : Page where
  items := slice params.size (params.page - 1) execution.rows
  total := total
  page := params.page
  size := params.size
  pages := pageCount total params.size

def getAllUsers (total : Nat) {users : UserTable} (execution : Execution users)
    (pageParams : AbstractParams) : Page :=
  apaginate total execution pageParams

section Listing

variable {users : UserTable} {size : Nat}

/-- The items of the pages 1, 2, ..., up to the number of pages, in this order;
`executions` says which order of the rows each request meets. -/
def listing (users : UserTable) (size : Nat) (positive : 1 ≤ size)
    (executions : Nat → Execution users) : List User :=
  (List.range (pageCount users.rows.length size)).flatMap fun skipped =>
    (getAllUsers (countUsers users) (executions skipped)
      ⟨skipped + 1, size, Nat.le_add_left 1 skipped, positive⟩).items

/-- Every user of the table is listed exactly once. -/
def ShowsEachOnce (users : UserTable) (listed : List User) : Prop :=
  ∀ user ∈ users.rows, listed.count user = 1

theorem UserTable.rows_nodup (users : UserTable) : users.rows.Nodup :=
  users.emailsUnique.of_map

theorem showsEachOnce_of_perm {listed : List User} (perm : listed.Perm users.rows) :
    ShowsEachOnce users listed := by
  intro user member
  rw [perm.count_eq]
  exact List.count_eq_one_of_mem users.rows_nodup member

theorem listing_eq_pages (positive : 1 ≤ size) (executions : Nat → Execution users) :
    listing users size positive executions =
      pages size (fun skipped => (executions skipped).rows)
        (pageCount users.rows.length size) :=
  rfl

/-- Requests that all meet the same order see each user once. -/
theorem showsEachOnce_of_same_order (positive : 1 ≤ size) {executions : Nat → Execution users}
    (order : List User)
    (same : ∀ skipped < pageCount users.rows.length size, (executions skipped).rows = order)
    (perm : order.Perm users.rows) :
    ShowsEachOnce users (listing users size positive executions) := by
  apply showsEachOnce_of_perm
  rw [listing_eq_pages, ← perm.length_eq, pages_whole positive]
  · exact perm
  · rwa [perm.length_eq]

/-- With a second page, the user shown first can be shown again. -/
theorem exists_shown_twice (positive : 1 ≤ size) (exceeds : size < users.rows.length) :
    ∃ executions : Nat → Execution users, ∃ user ∈ users.rows,
      2 ≤ (listing users size positive executions).count user := by
  cases shape : users.rows with
  | nil => simp [shape] at exceeds
  | cons first rest =>
      rw [shape, List.length_cons] at exceeds
      let asStored : Execution users := ⟨users.rows, List.Perm.refl _⟩
      let movedBack : Execution users :=
        ⟨moveBack size first rest, shape ▸ moveBack_perm size first rest⟩
      refine ⟨fun skipped => if skipped = 1 then movedBack else asStored, first,
        List.mem_cons_self, ?_⟩
      have onFirst : first ∈ slice size 0 asStored.rows := by
        show first ∈ slice size 0 users.rows
        rw [shape]
        exact mem_slice_head positive first rest
      have onSecond : first ∈ slice size 1 movedBack.rows :=
        mem_slice_moveBack positive (by omega)
      have several : 2 ≤ pageCount users.rows.length size :=
        two_le_pageCount positive (by rw [shape, List.length_cons]; omega)
      rw [listing_eq_pages]
      refine Nat.le_trans ?_ ((slices_sublist_pages _ several).count_le first)
      rw [List.count_append]
      have firstCount : 0 < (slice size 0 asStored.rows).count first :=
        List.count_pos_iff.mpr onFirst
      have secondCount : 0 < (slice size 1 movedBack.rows).count first :=
        List.count_pos_iff.mpr onSecond
      show 2 ≤ (slice size 0 asStored.rows).count first + (slice size 1 movedBack.rows).count first
      omega

end Listing

/-- Walking through the pages shows each user exactly once, whatever orders the
requests meet, exactly when the table fits on one page. -/
theorem listing_showsEachOnce_iff (users : UserTable) (size : Nat) (positive : 1 ≤ size) :
    (∀ executions, ShowsEachOnce users (listing users size positive executions)) ↔
      users.rows.length ≤ size := by
  constructor
  · intro always
    by_contra exceeds
    rcases exists_shown_twice positive (Nat.not_le.mp exceeds) with
      ⟨executions, user, member, twice⟩
    have once := always executions user member
    omega
  · intro fits executions
    have single := pageCount_le_one positive fits
    apply showsEachOnce_of_same_order positive (executions 0).rows
    · intro skipped below
      rw [show skipped = 0 by omega]
    · exact (executions 0).perm

private def firstUser : User :=
  ⟨1, "first@example.com", "hash", true, "0b6c3a34-6a4f-4c0e-8f5e-6f2f1a9f7b21", .user⟩

private def secondUser : User :=
  ⟨2, "second@example.com", "hash", true, "9a1f6c57-53de-4be3-8d2c-0a1b3c4d5e6f", .user⟩

private theorem twoUsers_unique : UniqueOn User.email [firstUser, secondUser] := by
  unfold UniqueOn
  decide

private def twoUsers : UserTable := ⟨[firstUser, secondUser], twoUsers_unique⟩

theorem listing_showsEachOnce_twoUsers :
    (∀ executions, ShowsEachOnce twoUsers (listing twoUsers 2 (by decide) executions)) ∧
      ¬ ∀ executions, ShowsEachOnce twoUsers (listing twoUsers 1 (by decide) executions) :=
  ⟨(listing_showsEachOnce_iff twoUsers 2 (by decide)).mpr (by decide),
    fun always => absurd ((listing_showsEachOnce_iff twoUsers 1 (by decide)).mp always)
      (by decide)⟩

/-- Two users on pages of one: the second request may meet the rows the other way
round, and the first user is shown twice. -/
theorem listing_repeats_user :
    ¬ ∀ (users : UserTable) (size : Nat) (positive : 1 ≤ size)
        (executions : Nat → Execution users),
        ShowsEachOnce users (listing users size positive executions) := by
  intro always
  have once := always twoUsers 1 (by decide)
    (fun skipped => if skipped = 1 then ⟨[secondUser, firstUser], List.Perm.swap _ _ _⟩
      else ⟨[firstUser, secondUser], List.Perm.refl _⟩)
    firstUser (by decide)
  revert once
  decide

end DemoBase.Backend
