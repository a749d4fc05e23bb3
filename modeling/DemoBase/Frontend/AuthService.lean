import DemoBase.Frontend.UserInfoService

/-!
Owns the frontend's `AuthService`: the stored token, and what a login and a
logout do to it and to the cached user.
-/

set_option autoImplicit false

namespace DemoBase.Frontend

structure AuthService where
  tokenStorage : Option String
  userInfoService : UserInfoService
deriving DecidableEq, Repr

namespace AuthService

variable (self : AuthService)

/-- The `tap` of `login`. -/
def login (accessToken : String) : AuthService :=
  ⟨some accessToken, self.userInfoService.clearUser⟩

/-- The `catchError` of `login`. -/
def loginFailed : AuthService := { self with tokenStorage := none }

def logout : AuthService := ⟨none, self.userInfoService.clearUser⟩

/-- The empty string is falsy. -/
def getAuthorizationHeader : Option String :=
  match self.tokenStorage with
  | none => none
  | some token => if token = "" then none else some ("Bearer " ++ token)

end AuthService

end DemoBase.Frontend
