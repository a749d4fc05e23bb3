import DemoBase.Foundations.KeyedRows

/-!
Owns the ORM model of `schemas/user.py`: the user roles, the rows of the
`users` table, a `User` object that has not been flushed yet, and the table
with its unique index on `email` carried as a proof.
-/

set_option autoImplicit false

namespace DemoBase.Backend

open DemoBase.Foundations.KeyedRows

/-- `UserRole(str, Enum)`. -/
inductive UserRole where
  | admin
  | user
deriving DecidableEq, Repr

/-- The value an enum member is stored and serialised as. -/
def UserRole.value : UserRole → String
  | .admin => "admin"
  | .user => "user"

/-- `UserRole(value)`. -/
def UserRole.ofValue (value : String) : Option UserRole :=
  if value = "admin" then some .admin else if value = "user" then some .user else none

@[simp] theorem UserRole.ofValue_value (role : UserRole) :
    UserRole.ofValue role.value = some role := by
  cases role <;> decide

/-- A row of the `users` table. -/
structure User where
  id : Nat
  email : String
  hashedPassword : String
  isActive : Bool
  userUuid : String
  role : UserRole
deriving DecidableEq, Repr

/-- A `User` object built by the service, before the flush fills in the
defaults of the other columns. -/
structure PendingUser where
  email : String
  hashedPassword : String
  role : UserRole
deriving DecidableEq, Repr

/-- The column values a flush obtains from outside the program: the sequence
value of `id` and the `uuid4()` default of `user_uuid`. -/
structure Generated where
  id : Nat
  userUuid : String
deriving DecidableEq, Repr

/-- The row a flush writes: `is_active` defaults to true. -/
def PendingUser.flush (pending : PendingUser) (generated : Generated) : User where
  id := generated.id
  email := pending.email
  hashedPassword := pending.hashedPassword
  isActive := true
  userUuid := generated.userUuid
  role := pending.role

/-- The `users` table. The unique index on `email` is part of the value. -/
structure UserTable where
  rows : List User
  emailsUnique : UniqueOn User.email rows

end DemoBase.Backend
