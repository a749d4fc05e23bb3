import DemoBase.Backend.Exceptions
import DemoBase.Backend.Schemas

/-!
Owns `UserRepository` over the `users` table: the lookup by email and the
insert a flush performs under the table's unique indexes.
-/

set_option autoImplicit false

namespace DemoBase.Backend

open DemoBase.Foundations.KeyedRows

/-- `select(User).where(User.email == email)` with `scalar_one_or_none()`. -/
def findUserByEmail (users : UserTable) (email : String) : Except PyException (Option User) :=
  match select User.email email users.rows with
  | [] => .ok none
  | [user] => .ok (some user)
  | _ => .error (.sqlAlchemyError "Multiple rows were found when one or none was required")

def uniqueViolation (index : String) : PyException :=
  .sqlAlchemyError s!"(IntegrityError) duplicate key value violates unique constraint \"{index}\""

/-- The `INSERT` of one flushed row. The unique indexes are checked by the
database, which is what makes a second row with the same email fail. -/
def UserTable.insert (users : UserTable) (row : User) : Except PyException UserTable :=
  if users.rows.any fun other => other.id == row.id then
    .error (uniqueViolation "users_pkey")
  else if users.rows.any fun other => other.userUuid == row.userUuid then
    .error (uniqueViolation "ix_users_user_uuid")
  else if taken : ∃ other ∈ users.rows, other.email = row.email then
    .error (uniqueViolation "ix_users_email")
  else
    .ok ⟨users.rows ++ [row],
      uniqueOn_append_singleton users.emailsUnique fun other member same =>
        taken ⟨other, member, same⟩⟩

/-! ### Lookups -/

variable {users : UserTable}

/-- A lookup never finds several rows: it answers with the row of that email,
or with none when there is none. -/
theorem findUserByEmail_total (users : UserTable) (email : String) :
    (findUserByEmail users email = .ok none ∧ ∀ row ∈ users.rows, row.email ≠ email) ∨
      ∃ user ∈ users.rows, user.email = email ∧
        findUserByEmail users email = .ok (some user) := by
  unfold findUserByEmail
  cases found : select User.email email users.rows with
  | nil => exact Or.inl ⟨rfl, select_eq_nil.mp found⟩
  | cons user rest =>
      right
      obtain ⟨member, emailEq⟩ : user ∈ users.rows ∧ user.email = email :=
        mem_select.mp (found ▸ List.mem_cons_self)
      have single := users.emailsUnique.select_key member
      rw [emailEq, found] at single
      obtain rfl : rest = [] := by simpa using single
      exact ⟨user, member, emailEq, rfl⟩

theorem findUserByEmail_of_mem {user : User} (member : user ∈ users.rows) :
    findUserByEmail users user.email = .ok (some user) := by
  unfold findUserByEmail
  rw [users.emailsUnique.select_key member]

theorem mem_of_findUserByEmail {email : String} {user : User}
    (found : findUserByEmail users email = .ok (some user)) :
    user ∈ users.rows ∧ user.email = email := by
  rcases findUserByEmail_total users email with ⟨absent, -⟩ | ⟨other, member, emailEq, present⟩
  · simp [absent] at found
  · rw [present] at found
    obtain rfl : other = user := by simpa using found
    exact ⟨member, emailEq⟩

/-! ### Inserts -/

/-- An insert that succeeds appends the row. -/
theorem UserTable.insert_ok {row : User} {after : UserTable}
    (inserted : users.insert row = .ok after) :
    after.rows = users.rows ++ [row] ∧ ∀ other ∈ users.rows, other.email ≠ row.email := by
  unfold UserTable.insert at inserted
  split at inserted
  · cases inserted
  · split at inserted
    · cases inserted
    · split at inserted
      · cases inserted
      · rename_i free
        cases inserted
        exact ⟨rfl, fun other member same => free ⟨other, member, same⟩⟩

/-- The insert fails when the email is taken. -/
theorem UserTable.insert_of_taken {row other : User} (member : other ∈ users.rows)
    (same : other.email = row.email) :
    ∃ index, users.insert row = .error (uniqueViolation index) := by
  unfold UserTable.insert
  split
  · exact ⟨_, rfl⟩
  · split
    · exact ⟨_, rfl⟩
    · rw [dif_pos ⟨other, member, same⟩]
      exact ⟨_, rfl⟩

/-- The insert succeeds when the row is new under every unique index. -/
theorem UserTable.insert_of_fresh {row : User}
    (idFree : ∀ other ∈ users.rows, other.id ≠ row.id)
    (uuidFree : ∀ other ∈ users.rows, other.userUuid ≠ row.userUuid)
    (emailFree : ∀ other ∈ users.rows, other.email ≠ row.email) :
    ∃ after, users.insert row = .ok after ∧ after.rows = users.rows ++ [row] := by
  unfold UserTable.insert
  rw [if_neg (by simpa using idFree), if_neg (by simpa using uuidFree),
    dif_neg (by rintro ⟨other, member, same⟩; exact emailFree other member same)]
  exact ⟨_, rfl, rfl⟩

end DemoBase.Backend
