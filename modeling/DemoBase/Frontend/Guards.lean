import DemoBase.Backend.Builtins

/-!
Owns the user types of the frontend and the `adminGuard` over the answer of a
`/users/me` request. A role is the string the JSON response carries; TypeScript
does not check it.
-/

set_option autoImplicit false

namespace DemoBase.Frontend

open DemoBase.Backend (Json)

structure UserInfo where
  userUuid : String
  email : String
  isActive : Bool
  role : String
deriving DecidableEq, Repr

/-- A failed request: the status of the response and its parsed body. -/
structure HttpErrorResponse where
  status : Nat
  error : Json
deriving DecidableEq, Repr

/-- `UserRole.ADMIN`. -/
def adminRole : String := "admin"

/-- What a `CanActivateFn` yields. -/
inductive GuardResult where
  | activate
  | urlTree (path : String)
deriving DecidableEq, Repr

/-- `adminGuard` once the request it waits on is answered. -/
def adminGuard (loaded : Except HttpErrorResponse UserInfo) : GuardResult :=
  match loaded with
  | .ok user => if user.role = adminRole then .activate else .urlTree "/home"
  | .error _ => .urlTree "/login"

end DemoBase.Frontend
