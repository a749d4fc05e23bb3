import DemoBase.Backend.AuthService
import DemoBase.Foundations.Pool

/-!
Owns concurrent `AuthService.add_new_user` calls, each on a session of its own.
A call takes four turns (hash, look the email up, add, commit) and the turns of
different calls interleave in any order over one `users` table. An injected
fault strikes the turn it comes with.
-/

set_option autoImplicit false

namespace DemoBase.Backend

open DemoBase.Foundations

/-- How far a call has come. -/
inductive Phase where
  | entered
  | built (newUser : PendingUser)
  | checked (newUser : PendingUser)
  | added (newUser : PendingUser)
  | finished (result : Except PyException RegisterResponseDto)

structure Call where
  user : RegisterRequestDto
  phase : Phase

/-- What one turn draws from outside. -/
structure Draw where
  salt : String
  generated : Generated
  fault : Option PyException

/-- A turn's computation, unless its fault strikes first. -/
def struck {Value : Type} (fault : Option PyException) (computed : Except PyException Value) :
    Except PyException Value :=
  match fault with
  | some error => .error error
  | none => computed

abbrev Calls := Pool UserTable Call

abbrev CallTurn := Pool.Turn Draw

namespace AuthService

variable (self : AuthService)

/-- One turn of a call: the table and the phase it leaves, or an exception. -/
def turn (users : UserTable) (call : Call) (draw : Draw) :
    Except PyException (UserTable × Phase) :=
  match call.phase with
  | .entered =>
      (struck draw.fault (self.buildUser call.user draw.salt)).map fun newUser =>
        (users, .built newUser)
  | .built newUser =>
      (struck draw.fault (checkAbsent users newUser)).map fun _ => (users, .checked newUser)
  | .checked newUser =>
      ((struck draw.fault (.ok ())).mapError wrapCreateError).map fun _ => (users, .added newUser)
  | .added newUser =>
      (struck (draw.fault.map wrapCreateError) (addAndCommit users newUser draw.generated)).map
        fun after => (after, .finished (.ok ⟨draw.generated.userUuid, newUser.email⟩))
  | .finished result => .ok (users, .finished result)

/-- An exception ends the call, through the scope of its session. -/
def advance (users : UserTable) (call : Call) (draw : Draw) : UserTable × Call :=
  match self.turn users call draw with
  | .ok (after, phase) => (after, { call with phase })
  | .error error => (users, { call with phase := .finished (.error (sessionScope error)) })

abbrev calls : Machine Calls CallTurn (Option Call) := Pool.machine self.advance

/-- Calls that have not begun, one for each request. -/
def entering (users : UserTable) (requests : List RegisterRequestDto) : Calls :=
  ⟨users, requests.map fun user => ⟨user, .entered⟩⟩

/-! ### What a turn can do -/

variable {self} {users after : UserTable} {call : Call} {draw : Draw} {phase : Phase}

theorem struck_ok {Value : Type} {fault : Option PyException}
    {computed : Except PyException Value} {value : Value} (ok : struck fault computed = .ok value) :
    computed = .ok value := by
  cases fault with
  | none => exact ok
  | some error => cases ok

theorem map_ok {Value Next : Type} {computed : Except PyException Value} {rest : Value → Next}
    {next : Next} (ok : computed.map rest = .ok next) :
    ∃ value, computed = .ok value ∧ rest value = next := by
  cases computed with
  | error error => cases ok
  | ok value => exact ⟨value, rfl, Except.ok.inj ok⟩

theorem turn_ok (ok : self.turn users call draw = .ok (after, phase)) :
    (∃ newUser, call.phase = .entered ∧ self.buildUser call.user draw.salt = .ok newUser ∧
        after = users ∧ phase = .built newUser) ∨
      (∃ newUser, call.phase = .built newUser ∧ checkAbsent users newUser = .ok () ∧
        after = users ∧ phase = .checked newUser) ∨
      (∃ newUser, call.phase = .checked newUser ∧ after = users ∧ phase = .added newUser) ∨
      (∃ newUser, call.phase = .added newUser ∧
        addAndCommit users newUser draw.generated = .ok after ∧
        phase = .finished (.ok ⟨draw.generated.userUuid, newUser.email⟩)) ∨
      ∃ result, call.phase = .finished result ∧ after = users ∧ phase = .finished result := by
  unfold turn at ok
  split at ok
  · rename_i entered
    rcases map_ok ok with ⟨newUser, computed, left⟩
    rcases Prod.mk.inj left with ⟨rfl, rfl⟩
    exact Or.inl ⟨newUser, entered, struck_ok computed, rfl, rfl⟩
  · rename_i newUser built
    rcases map_ok ok with ⟨_, computed, left⟩
    rcases Prod.mk.inj left with ⟨rfl, rfl⟩
    exact Or.inr (Or.inl ⟨newUser, built, struck_ok computed, rfl, rfl⟩)
  · rename_i newUser checked
    rcases map_ok ok with ⟨_, -, left⟩
    rcases Prod.mk.inj left with ⟨rfl, rfl⟩
    exact Or.inr (Or.inr (Or.inl ⟨newUser, checked, rfl, rfl⟩))
  · rename_i newUser added
    rcases map_ok ok with ⟨table, computed, left⟩
    rcases Prod.mk.inj left with ⟨rfl, rfl⟩
    exact Or.inr (Or.inr (Or.inr (Or.inl ⟨newUser, added, struck_ok computed, rfl⟩)))
  · rename_i result finished
    rcases Prod.mk.inj (Except.ok.inj ok) with ⟨rfl, rfl⟩
    exact Or.inr (Or.inr (Or.inr (Or.inr ⟨result, finished, rfl, rfl⟩)))

/-- A turn keeps every row and the call's request. -/
theorem advance_rows (users : UserTable) (call : Call) (draw : Draw) :
    ∀ row ∈ users.rows, row ∈ (self.advance users call draw).1.rows := by
  intro row inTable
  unfold advance
  cases outcome : self.turn users call draw with
  | error error => exact inTable
  | ok left =>
      obtain ⟨after, phase⟩ := left
      rcases turn_ok outcome with ⟨-, -, -, rfl, -⟩ | ⟨-, -, -, rfl, -⟩ | ⟨-, -, rfl, -⟩ |
        ⟨newUser, -, committed, -⟩ | ⟨-, -, rfl, -⟩
      · exact inTable
      · exact inTable
      · exact inTable
      · have appended := (addAndCommit_ok committed).1
        show row ∈ after.rows
        rw [appended]
        exact List.mem_append_left _ inTable
      · exact inTable

theorem advance_user (users : UserTable) (call : Call) (draw : Draw) :
    (self.advance users call draw).2.user = call.user := by
  unfold advance
  cases self.turn users call draw with
  | error error => rfl
  | ok left => rfl

theorem advance_finished {result : Except PyException RegisterResponseDto}
    (finished : call.phase = .finished result) (users : UserTable) (draw : Draw) :
    self.advance users call draw = (users, call) := by
  have stays : self.turn users call draw = .ok (users, .finished result) := by
    unfold turn
    rw [finished]
  unfold advance
  rw [stays]
  cases call
  simp_all

end AuthService

end DemoBase.Backend
