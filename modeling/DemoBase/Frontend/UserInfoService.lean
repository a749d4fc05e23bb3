import DemoBase.Frontend.Guards

/-!
Owns `UserInfoService`: the four fields it keeps and what `loadCurrentUser`,
`clearUser` and the callbacks of an answered `/users/me` request write to them.
A request is named by the number under which it was issued.
-/

set_option autoImplicit false

namespace DemoBase.Frontend

abbrev Answer := Except HttpErrorResponse UserInfo

structure UserInfoService where
  request : Option Nat
  currentUser : Option UserInfo
  isLoading : Bool
  error : Option HttpErrorResponse
deriving DecidableEq, Repr

namespace UserInfoService

def initial : UserInfoService := ⟨none, none, false, none⟩

variable (self : UserInfoService)

/-- The computed signal `isAdmin`. -/
def isAdmin : Bool :=
  match self.currentUser with
  | none => false
  | some user => user.role == adminRole

/-- `loadCurrentUser`, with whether it issues the request that is next in line. -/
def loadCurrentUser (next : Nat) : UserInfoService × Bool :=
  match self.request with
  | some _ => (self, false)
  | none => ({ self with isLoading := true, error := none, request := some next }, true)

/-- The `tap` and `catchError` callbacks, which run for every request that is
answered, cached or not. -/
def settle (answer : Answer) : UserInfoService :=
  match answer with
  | .ok user => { self with currentUser := some user, isLoading := false }
  | .error error => { self with isLoading := false, error := some error, request := none }

def clearUser (self : UserInfoService) : UserInfoService :=
  { self with request := none, currentUser := none, isLoading := false, error := none }

/-- The fields already have the values this answer writes. -/
def AlreadyShows (answer : Answer) : Prop :=
  match answer with
  | .ok user => self.currentUser = some user ∧ self.isLoading = false
  | .error error => self.request = none ∧ self.isLoading = false ∧ self.error = some error

variable {self}

theorem settle_eq_self (answer : Answer) :
    self.settle answer = self ↔ self.AlreadyShows answer := by
  obtain ⟨request, currentUser, isLoading, error⟩ := self
  cases answer with
  | ok user => simp [settle, AlreadyShows, eq_comm]
  | error raised => simp [settle, AlreadyShows, eq_comm]

/-- Some answer of the same kind would change a field. -/
theorem exists_not_alreadyShows_ok (self : UserInfoService) :
    ∃ user, ¬ self.AlreadyShows (.ok user) := by
  cases shown : self.currentUser with
  | none => exact ⟨⟨"", "", true, ""⟩, fun already => absurd (shown.symm.trans already.1) nofun⟩
  | some current =>
      refine ⟨{ current with isActive := !current.isActive }, fun already => ?_⟩
      have same := Option.some.inj (shown.symm.trans already.1)
      have flipped : current.isActive = !current.isActive := congrArg UserInfo.isActive same
      simp at flipped

theorem exists_not_alreadyShows_error (self : UserInfoService) :
    ∃ error, ¬ self.AlreadyShows (.error error) := by
  cases shown : self.error with
  | none => exact ⟨⟨500, .null⟩, fun already => absurd (shown.symm.trans already.2.2) nofun⟩
  | some current =>
      refine ⟨{ current with status := current.status + 1 }, fun already => ?_⟩
      have same := Option.some.inj (shown.symm.trans already.2.2)
      have shifted : current.status = current.status + 1 := congrArg HttpErrorResponse.status same
      omega

theorem loadCurrentUser_currentUser (next : Nat) :
    (self.loadCurrentUser next).1.currentUser = self.currentUser := by
  unfold loadCurrentUser
  cases self.request with
  | none => rfl
  | some request => rfl

end UserInfoService

end DemoBase.Frontend
