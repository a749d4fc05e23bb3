import DemoBase.Backend.Registration
import DemoBase.Backend.SessionScope

/-!
Owns concurrent `AuthService.add_new_user` calls inside their
`AsyncDBClient.session` scopes. Every operation of the session is a turn of its
own, an exception leaves through the `try` of the service and then through the
scope, and a fault strikes an operation before or after its effect on the session.
Registration is all or nothing.
-/

set_option autoImplicit false

namespace DemoBase.Backend

open DemoBase.Foundations DemoBase.Foundations.KeyedRows AsyncSession

/-- How far a call has come through its scope. -/
inductive ScopePhase where
  | entered
  | built (newUser : PendingUser)
  | checked (newUser : PendingUser)
  | added (newUser : PendingUser)
  | committed (result : User)
  | leaving (outcome : Except PyException RegisterResponseDto)
  | left (outcome : Except PyException RegisterResponseDto)

structure ScopedCall where
  user : RegisterRequestDto
  session : AsyncSession
  phase : ScopePhase

/-- When a fault strikes an operation. -/
inductive Moment where
  | before
  | after

structure SessionFault where
  moment : Moment
  error : PyException

structure ScopedDraw where
  salt : String
  generated : Generated
  fault : Option SessionFault

/-- An operation on a session, unless a fault strikes it before or after its effect. -/
def strike {Value : Type} (fault : Option SessionFault) (before after : AsyncSession)
    (computed : Except PyException Value × AsyncSession) :
    Except PyException Value × AsyncSession :=
  match fault with
  | none => computed
  | some ⟨.before, error⟩ => (.error error, before)
  | some ⟨.after, error⟩ => (.error error, after)

/-- An exception is on its way out. -/
def raised : Except PyException RegisterResponseDto → Bool
  | .ok _ => false
  | .error _ => true

/-- A call seen without its scope, as `Registration` models it. -/
def ScopedCall.withoutScope (call : ScopedCall) : Call where
  user := call.user
  phase :=
    match call.phase with
    | .entered => .entered
    | .built newUser => .built newUser
    | .checked newUser => .checked newUser
    | .added newUser => .added newUser
    | .committed result => .finished (.ok ⟨result.userUuid, result.email⟩)
    | .leaving outcome => .finished (outcome.mapError sessionScope)
    | .left outcome => .finished outcome

def ScopedDraw.withoutMoment (draw : ScopedDraw) : Draw :=
  ⟨draw.salt, draw.generated, draw.fault.map SessionFault.error⟩

abbrev ScopedCalls := Pool UserTable ScopedCall

abbrev ScopedTurn := Pool.Turn ScopedDraw

namespace AuthService

variable (self : AuthService) (sqlAlchemy : SQLAlchemy)

/-- One turn of a call. A commit that raises has no effect and is rolled back. -/
def scopedAdvance (users : UserTable) (call : ScopedCall) (draw : ScopedDraw) :
    UserTable × ScopedCall :=
  match call.phase with
  | .entered =>
      match struck (draw.fault.map SessionFault.error) (self.buildUser call.user draw.salt) with
      | .error error => (users, { call with phase := .leaving (.error error) })
      | .ok newUser => (users, { call with phase := .built newUser })
  | .built newUser =>
      let executed := sqlAlchemy.execute users call.session newUser.email
      match strike draw.fault call.session executed.2 executed with
      | (.error error, session) => (users, { call with session, phase := .leaving (.error error) })
      | (.ok (some _), session) =>
          (users, { call with
            session, phase := .leaving
              (.error (.httpException (userExistsException newUser.email))) })
      | (.ok none, session) => (users, { call with session, phase := .checked newUser })
  | .checked newUser =>
      let session := sqlAlchemy.add call.session newUser
      match strike draw.fault call.session session (.ok (), session) with
      | (.error error, session) =>
          (users, { call with session, phase := .leaving (.error (wrapCreateError error)) })
      | (.ok (), session) => (users, { call with session, phase := .added newUser })
  | .added newUser =>
      match strike draw.fault call.session (sqlAlchemy.rollback call.session)
        (sqlAlchemy.commit users call.session draw.generated) with
      | (.error error, session) =>
          (users, { call with session, phase := .leaving (.error (wrapCreateError error)) })
      | (.ok after, session) =>
          (after, { call with session, phase := .committed (newUser.flush draw.generated) })
  | .committed result =>
      (users, { call with
        session := sqlAlchemy.load call.session
        phase := .leaving (.ok ⟨result.userUuid, result.email⟩) })
  | .leaving outcome =>
      match sqlAlchemy.exit users call.session draw.generated (raised outcome) with
      | (.error error, session) =>
          (users, { call with session, phase := .left (.error (sessionScope error)) })
      | (.ok after, session) =>
          (after, { call with session, phase := .left (outcome.mapError sessionScope) })
  | .left _ => (users, call)

abbrev scopedCalls : Machine ScopedCalls ScopedTurn (Option ScopedCall) :=
  Pool.machine (self.scopedAdvance sqlAlchemy)

/-- Calls at the start of their scopes, one for each request. -/
def scopes (users : UserTable) (requests : List RegisterRequestDto) : ScopedCalls :=
  ⟨users, requests.map fun user =>
    ⟨user, sqlAlchemy.begin AsyncDBClient.sessionLocal, .entered⟩⟩

/-- The object was built for this request. -/
def Builds (user : RegisterRequestDto) (newUser : PendingUser) : Prop :=
  ∃ salt, self.buildUser user salt = .ok newUser

/-- The row is the one this request asks for, and the response names it. -/
structure Registers (service : AuthService) (user : RegisterRequestDto)
    (response : RegisterResponseDto) (row : User) : Prop where
  email : row.email = user.email
  role : row.role = .user
  isActive : row.isActive = true
  userUuid : row.userUuid = response.id
  answered : response.email = row.email
  verifies : service.passwordHasher.verifyPassword user.password row.hashedPassword = .ok true

/-- The session fits the phase: a returned call committed its row and did nothing
more, one that raised has rolled back. -/
def InScope (call : ScopedCall) : Prop :=
  match call.phase with
  | .entered => Open [] call.session
  | .built newUser => Open [] call.session ∧ self.Builds call.user newUser
  | .checked newUser => Open [] call.session ∧ self.Builds call.user newUser
  | .added newUser => Open [newUser] call.session ∧ self.Builds call.user newUser
  | .committed result =>
      Committed result call.session ∧
        self.Registers call.user ⟨result.userUuid, result.email⟩ result
  | .leaving (.ok response) | .left (.ok response) =>
      ∃ row, Committed row call.session ∧ self.Registers call.user response row
  | .leaving (.error _) => (∃ new, Open new call.session) ∨ RolledBack call.session
  | .left (.error _) => RolledBack call.session

/-- What a turn does: the call stays in its scope, and either table and commit are
as before or the call stored its one row. -/
structure Proceeds (service : AuthService) (users : UserTable) (call : ScopedCall)
    (moved : UserTable × ScopedCall) : Prop where
  inScope : service.InScope moved.2
  stores : (moved.1.rows = users.rows ∧ moved.2.session.stored = call.session.stored) ∨
    ∃ row, call.session.stored = none ∧ moved.2.session.stored = some row ∧
      moved.1.rows = users.rows ++ [row]

/-! ### What a turn does -/

variable {self} {sqlAlchemy} {users : UserTable} {user : RegisterRequestDto}
  {session : AsyncSession} {newUser : PendingUser}

theorem strike_cases {Value : Type} (fault : Option SessionFault) (before after : AsyncSession)
    (computed : Except PyException Value × AsyncSession) :
    strike fault before after computed = computed ∨
      ∃ error, strike fault before after computed = (.error error, before) ∨
        strike fault before after computed = (.error error, after) := by
  cases fault with
  | none => exact Or.inl rfl
  | some fault =>
      obtain ⟨moment, error⟩ := fault
      right
      cases moment with
      | before => exact ⟨error, Or.inl rfl⟩
      | after => exact ⟨error, Or.inr rfl⟩

theorem Proceeds.unstored {call : ScopedCall} {moved : UserTable × ScopedCall}
    (sameTable : moved.1 = users) (inScope : self.InScope moved.2)
    (before : call.session.stored = none) (after : moved.2.session.stored = none) :
    self.Proceeds users call moved := by
  refine ⟨inScope, Or.inl ⟨?_, ?_⟩⟩
  · rw [sameTable]
  · rw [before, after]

/-- A turn that raises in an open transaction, or after a rollback, stores nothing. -/
theorem Proceeds.raises {call : ScopedCall} {error : PyException}
    (before : call.session.stored = none)
    (ends : (∃ new, Open new session) ∨ RolledBack session) :
    self.Proceeds users call (users, { call with session, phase := .leaving (.error error) }) := by
  refine Proceeds.unstored rfl ends before ?_
  rcases ends with ⟨new, isOpen⟩ | rolledBack
  · exact isOpen.stored_eq_none
  · exact rolledBack.stored_eq_none

theorem registers_of_builds (acceptsOwn : self.passwordHasher.pwdContext.AcceptsOwn)
    (builds : self.Builds user newUser) (generated : Generated) :
    self.Registers user ⟨generated.userUuid, newUser.email⟩ (newUser.flush generated) := by
  obtain ⟨salt, built⟩ := builds
  rcases buildUser_ok built with ⟨email, role, encrypted⟩
  exact ⟨email, role, rfl, rfl, rfl, acceptsOwn _ _ _ encrypted⟩

theorem proceeds_entered (isOpen : Open [] session) (draw : ScopedDraw) :
    self.Proceeds users ⟨user, session, .entered⟩
      (self.scopedAdvance sqlAlchemy users ⟨user, session, .entered⟩ draw) := by
  unfold scopedAdvance
  cases built : struck (draw.fault.map SessionFault.error) (self.buildUser user draw.salt) with
  | error error =>
      dsimp only
      exact Proceeds.raises isOpen.stored_eq_none (Or.inl ⟨[], isOpen⟩)
  | ok newUser =>
      dsimp only
      refine Proceeds.unstored rfl ?_ isOpen.stored_eq_none isOpen.stored_eq_none
      exact ⟨isOpen, draw.salt, struck_ok built⟩

theorem proceeds_built (documented : sqlAlchemy.Documented) (isOpen : Open [] session)
    (builds : self.Builds user newUser) (draw : ScopedDraw) :
    self.Proceeds users ⟨user, session, .built newUser⟩
      (self.scopedAdvance sqlAlchemy users ⟨user, session, .built newUser⟩ draw) := by
  have before := isOpen.stored_eq_none
  rcases documented.open_execute isOpen users newUser.email with ⟨-, openAfter⟩
  unfold scopedAdvance
  dsimp only
  rcases strike_cases draw.fault session (sqlAlchemy.execute users session newUser.email).2
    (sqlAlchemy.execute users session newUser.email) with calm | ⟨error, early | late⟩
  · rw [calm]
    cases executed : sqlAlchemy.execute users session newUser.email with
    | mk answer after =>
        rw [executed] at openAfter
        cases answer with
        | error error => exact Proceeds.raises before (Or.inl ⟨[], openAfter⟩)
        | ok found =>
            cases found with
            | some present => exact Proceeds.raises before (Or.inl ⟨[], openAfter⟩)
            | none =>
                refine Proceeds.unstored rfl ?_ before openAfter.stored_eq_none
                exact ⟨openAfter, builds⟩
  · rw [early]
    exact Proceeds.raises before (Or.inl ⟨[], isOpen⟩)
  · rw [late]
    exact Proceeds.raises before (Or.inl ⟨[], openAfter⟩)

theorem proceeds_checked (documented : sqlAlchemy.Documented) (isOpen : Open [] session)
    (builds : self.Builds user newUser) (draw : ScopedDraw) :
    self.Proceeds users ⟨user, session, .checked newUser⟩
      (self.scopedAdvance sqlAlchemy users ⟨user, session, .checked newUser⟩ draw) := by
  have before := isOpen.stored_eq_none
  have openAfter : Open [newUser] (sqlAlchemy.add session newUser) :=
    documented.open_add isOpen newUser
  unfold scopedAdvance
  dsimp only
  rcases strike_cases draw.fault session (sqlAlchemy.add session newUser)
    (.ok (), sqlAlchemy.add session newUser) with calm | ⟨error, early | late⟩
  · rw [calm]
    refine Proceeds.unstored rfl ?_ before openAfter.stored_eq_none
    exact ⟨openAfter, builds⟩
  · rw [early]
    exact Proceeds.raises before (Or.inl ⟨[], isOpen⟩)
  · rw [late]
    exact Proceeds.raises before (Or.inl ⟨[newUser], openAfter⟩)

/-- The explicit commit is where a call stores its row. -/
theorem proceeds_added (documented : sqlAlchemy.Documented)
    (acceptsOwn : self.passwordHasher.pwdContext.AcceptsOwn) (isOpen : Open [newUser] session)
    (builds : self.Builds user newUser) (draw : ScopedDraw) :
    self.Proceeds users ⟨user, session, .added newUser⟩
      (self.scopedAdvance sqlAlchemy users ⟨user, session, .added newUser⟩ draw) := by
  have before := isOpen.stored_eq_none
  have rolledBack := documented.rolledBack_rollback isOpen
  unfold scopedAdvance
  dsimp only
  rcases strike_cases draw.fault session (sqlAlchemy.rollback session)
    (sqlAlchemy.commit users session draw.generated) with calm | ⟨error, early | late⟩
  · rw [calm]
    cases answered : sqlAlchemy.commit users session draw.generated with
    | mk answer after =>
        rcases documented.commit_cases isOpen users draw.generated with
          ⟨table, inserted, isOk, committed⟩ | ⟨error, -, isError, failed⟩
        · rw [answered] at isOk committed
          obtain rfl : answer = .ok table := isOk
          have registers := registers_of_builds acceptsOwn builds draw.generated
          refine ⟨⟨committed, registers⟩, Or.inr ⟨newUser.flush draw.generated, before, ?_, ?_⟩⟩
          · exact committed.stored_eq_some
          · exact (UserTable.insert_ok inserted).1
        · rw [answered] at isError failed
          obtain rfl : answer = .error error := isError
          exact Proceeds.raises before (Or.inr failed)
  · rw [early]
    exact Proceeds.raises before (Or.inl ⟨[newUser], isOpen⟩)
  · rw [late]
    exact Proceeds.raises before (Or.inr rolledBack)

/-- Reading the committed object sends nothing, since it is not expired. -/
theorem proceeds_committed (documented : sqlAlchemy.Documented) {row : User}
    (committed : Committed row session)
    (registers : self.Registers user ⟨row.userUuid, row.email⟩ row)
    (draw : ScopedDraw) :
    self.Proceeds users ⟨user, session, .committed row⟩
      (self.scopedAdvance sqlAlchemy users ⟨user, session, .committed row⟩ draw) := by
  unfold scopedAdvance
  simp only [documented.load_committed committed]
  exact ⟨⟨row, committed, registers⟩, Or.inl ⟨rfl, rfl⟩⟩

/-- Leaving the scope does nothing after a commit and rolls back otherwise. -/
theorem proceeds_leaving (documented : sqlAlchemy.Documented)
    (outcome : Except PyException RegisterResponseDto)
    (inScope : self.InScope ⟨user, session, .leaving outcome⟩) (draw : ScopedDraw) :
    self.Proceeds users ⟨user, session, .leaving outcome⟩
      (self.scopedAdvance sqlAlchemy users ⟨user, session, .leaving outcome⟩ draw) := by
  unfold scopedAdvance
  cases outcome with
  | ok response =>
      obtain ⟨row, committed, registers⟩ := inScope
      have nothing := documented.exitEnded users session draw.generated false
        committed.inTransaction
      simp only [raised, nothing]
      exact ⟨⟨row, committed, registers⟩, Or.inl ⟨rfl, rfl⟩⟩
  | error error =>
      have before : session.stored = none := by
        rcases inScope with ⟨new, isOpen⟩ | rolledBack
        · exact isOpen.stored_eq_none
        · exact rolledBack.stored_eq_none
      rcases documented.exit_raised inScope users draw.generated with ⟨isOk, rolledBack⟩
      cases exited : sqlAlchemy.exit users session draw.generated true with
      | mk answer after =>
          rw [exited] at isOk rolledBack
          obtain rfl : answer = .ok users := isOk
          simp only [raised, exited]
          exact Proceeds.unstored rfl rolledBack before rolledBack.stored_eq_none

/-- Every turn of a call. -/
theorem proceeds_scopedAdvance (documented : sqlAlchemy.Documented)
    (acceptsOwn : self.passwordHasher.pwdContext.AcceptsOwn) {call : ScopedCall}
    (inScope : self.InScope call) (users : UserTable) (draw : ScopedDraw) :
    self.Proceeds users call (self.scopedAdvance sqlAlchemy users call draw) := by
  obtain ⟨user, session, phase⟩ := call
  cases phase with
  | entered => exact proceeds_entered inScope draw
  | built newUser => exact proceeds_built documented inScope.1 inScope.2 draw
  | checked newUser => exact proceeds_checked documented inScope.1 inScope.2 draw
  | added newUser => exact proceeds_added documented acceptsOwn inScope.1 inScope.2 draw
  | committed row => exact proceeds_committed documented inScope.1 inScope.2 draw
  | leaving outcome => exact proceeds_leaving documented outcome inScope draw
  | left outcome => exact ⟨inScope, Or.inl ⟨rfl, rfl⟩⟩

/-- A struck turn raises the same error with and without the scope. -/
theorem advance_withoutScope_of_fault {call : ScopedCall} (fault : SessionFault)
    (salt : String) (generated : Generated)
    (striking : call.phase = .entered ∨ (∃ newUser, call.phase = .built newUser) ∨
      (∃ newUser, call.phase = .checked newUser) ∨ ∃ newUser, call.phase = .added newUser) :
    self.advance users call.withoutScope (ScopedDraw.withoutMoment ⟨salt, generated, some fault⟩) =
      ((self.scopedAdvance sqlAlchemy users call ⟨salt, generated, some fault⟩).1,
        (self.scopedAdvance sqlAlchemy users call
          ⟨salt, generated, some fault⟩).2.withoutScope) := by
  obtain ⟨user, session, phase⟩ := call
  obtain ⟨moment, error⟩ := fault
  rcases striking with entered | ⟨newUser, built⟩ | ⟨newUser, checked⟩ | ⟨newUser, added⟩
  · obtain rfl : phase = .entered := entered
    rfl
  · obtain rfl : phase = .built newUser := built
    cases moment with
    | before => rfl
    | after => rfl
  · obtain rfl : phase = .checked newUser := checked
    cases moment with
    | before => rfl
    | after => rfl
  · obtain rfl : phase = .added newUser := added
    cases moment with
    | before => rfl
    | after => rfl

/-- Without its scope, a turn of a call is a turn of `Registration`, or none once the
call is past its commit. -/
theorem advance_withoutScope (documented : sqlAlchemy.Documented) {call : ScopedCall}
    (inScope : self.InScope call) (users : UserTable) (draw : ScopedDraw) :
    self.advance users call.withoutScope draw.withoutMoment =
      ((self.scopedAdvance sqlAlchemy users call draw).1,
        (self.scopedAdvance sqlAlchemy users call draw).2.withoutScope) := by
  obtain ⟨salt, generated, fault⟩ := draw
  obtain ⟨user, session, phase⟩ := call
  cases phase with
  | entered =>
      cases fault with
      | some fault => exact advance_withoutScope_of_fault fault salt generated (Or.inl rfl)
      | none =>
          simp only [advance, turn, scopedAdvance, ScopedCall.withoutScope,
            ScopedDraw.withoutMoment, Option.map_none, struck]
          cases self.buildUser user salt with
          | error error => rfl
          | ok newUser => rfl
  | built newUser =>
      cases fault with
      | some fault =>
          exact advance_withoutScope_of_fault fault salt generated (Or.inr (Or.inl ⟨_, rfl⟩))
      | none =>
          have executed := documented.execute users session newUser.email inScope.1.configured.1
          simp only [advance, turn, scopedAdvance, ScopedCall.withoutScope,
            ScopedDraw.withoutMoment, Option.map_none, struck, strike, checkAbsent, executed]
          cases findUserByEmail users newUser.email with
          | error error => rfl
          | ok found =>
              cases found with
              | none => rfl
              | some present => rfl
  | checked newUser =>
      cases fault with
      | some fault =>
          exact advance_withoutScope_of_fault fault salt generated
            (Or.inr (Or.inr (Or.inl ⟨_, rfl⟩)))
      | none => rfl
  | added newUser =>
      cases fault with
      | some fault =>
          exact advance_withoutScope_of_fault fault salt generated
            (Or.inr (Or.inr (Or.inr ⟨_, rfl⟩)))
      | none =>
          simp only [advance, turn, scopedAdvance, ScopedCall.withoutScope,
            ScopedDraw.withoutMoment, Option.map_none, struck, strike, addAndCommit]
          cases answered : sqlAlchemy.commit users session generated with
          | mk answer after =>
              rcases documented.commit_cases inScope.1 users generated with
                ⟨table, inserted, isOk, -⟩ | ⟨error, inserted, isError, -⟩
              · rw [answered] at isOk
                obtain rfl : answer = .ok table := isOk
                rw [inserted]
                rfl
              · rw [answered] at isError
                obtain rfl : answer = .error error := isError
                rw [inserted]
                rfl
  | committed row => rfl
  | leaving outcome =>
      cases outcome with
      | ok response =>
          obtain ⟨row, committed, -⟩ := inScope
          have nothing := documented.exitEnded users session generated false
            committed.inTransaction
          simp only [scopedAdvance, raised, nothing]
          rfl
      | error error =>
          have exited := (documented.exit_raised inScope users generated).1
          simp only [scopedAdvance, raised]
          cases answered : sqlAlchemy.exit users session generated true with
          | mk answer after =>
              rw [answered] at exited
              obtain rfl : answer = .ok users := exited
              rfl
  | left outcome => rfl

theorem scopedAdvance_user (users : UserTable) (call : ScopedCall) (draw : ScopedDraw) :
    (self.scopedAdvance sqlAlchemy users call draw).2.user = call.user := by
  unfold scopedAdvance
  split
  · split
    · rfl
    · rfl
  · dsimp only
    split
    · rfl
    · rfl
    · rfl
  · dsimp only
    split
    · rfl
    · rfl
  · split
    · rfl
    · rfl
  · rfl
  · split
    · rfl
    · rfl
  · rfl

/-- Only a call that did not raise has stored a row, the one its request asks for. -/
theorem registers_of_stored {call : ScopedCall} {row : User} (inScope : self.InScope call)
    (stored : call.session.stored = some row) :
    (∃ response, self.Registers call.user response row) ∧
      (∀ response, call.phase = .left (.ok response) → self.Registers call.user response row) ∧
      ∀ error, call.phase ≠ .left (.error error) := by
  obtain ⟨user, session, phase⟩ := call
  have notOpen : ∀ new, ¬ Open new session := by
    intro new isOpen
    cases isOpen.stored_eq_none.symm.trans stored
  have notRolledBack : ¬ RolledBack session := by
    intro rolledBack
    cases rolledBack.stored_eq_none.symm.trans stored
  have isRow : ∀ other, Committed other session → other = row :=
    fun other committed => Option.some.inj (committed.stored_eq_some.symm.trans stored)
  cases phase with
  | entered => exact absurd inScope (notOpen _)
  | built newUser => exact absurd inScope.1 (notOpen _)
  | checked newUser => exact absurd inScope.1 (notOpen _)
  | added newUser => exact absurd inScope.1 (notOpen _)
  | committed result =>
      obtain rfl := isRow result inScope.1
      exact ⟨⟨_, inScope.2⟩, by simp, by simp⟩
  | leaving outcome =>
      cases outcome with
      | ok response =>
          obtain ⟨other, committed, registers⟩ := inScope
          obtain rfl := isRow other committed
          exact ⟨⟨response, registers⟩, by simp, by simp⟩
      | error error =>
          rcases inScope with ⟨new, isOpen⟩ | rolledBack
          · exact absurd isOpen (notOpen new)
          · exact absurd rolledBack notRolledBack
  | left outcome =>
      cases outcome with
      | ok response =>
          obtain ⟨other, committed, registers⟩ := inScope
          obtain rfl := isRow other committed
          refine ⟨⟨response, registers⟩, ?_, by simp⟩
          intro other same
          cases same
          exact registers
      | error error => exact absurd inScope notRolledBack

/-- A call that returned has stored a row. -/
theorem stored_of_returned {call : ScopedCall} {response : RegisterResponseDto}
    (inScope : self.InScope call) (returned : call.phase = .left (.ok response)) :
    ∃ row, call.session.stored = some row := by
  obtain ⟨user, session, phase⟩ := call
  obtain rfl : phase = .left (.ok response) := returned
  obtain ⟨row, committed, -⟩ := inScope
  exact ⟨row, committed.stored_eq_some⟩

theorem silent_of_inScope {call : ScopedCall} (inScope : self.InScope call) :
    call.session.SilentAfterCommit := by
  obtain ⟨user, session, phase⟩ := call
  cases phase with
  | entered => exact Open.silentAfterCommit inScope
  | built newUser => exact inScope.1.silentAfterCommit
  | checked newUser => exact inScope.1.silentAfterCommit
  | added newUser => exact inScope.1.silentAfterCommit
  | committed result => exact inScope.1.silentAfterCommit
  | leaving outcome =>
      cases outcome with
      | ok response =>
          obtain ⟨row, committed, -⟩ := inScope
          exact committed.silentAfterCommit
      | error error =>
          rcases inScope with ⟨new, isOpen⟩ | rolledBack
          · exact isOpen.silentAfterCommit
          · exact rolledBack.silentAfterCommit
  | left outcome =>
      cases outcome with
      | ok response =>
          obtain ⟨row, committed, -⟩ := inScope
          exact committed.silentAfterCommit
      | error error => exact RolledBack.silentAfterCommit inScope

/-- What every run of concurrent registrations leaves: the rows from before, and one
row for each of its owners. A call that returned is an owner of exactly one row, a
call that raised of none, and only calls that registered a user are owners. -/
structure AllOrNothing (service : AuthService) (users : UserTable)
    (requests : List RegisterRequestDto) (owners : List (Nat × User)) (pool : ScopedCalls) :
    Prop where
  requested : pool.processes.map ScopedCall.user = requests
  appended : pool.shared.rows = users.rows ++ owners.map Prod.snd
  once : (owners.map Prod.fst).Nodup
  owned : ∀ index row, (index, row) ∈ owners →
    ∃ call response, pool.processes[index]? = some call ∧ service.Registers call.user response row
  returned : ∀ (index : Nat) call response, pool.processes[index]? = some call →
    call.phase = .left (.ok response) →
      ∃ row, (∀ other, (index, other) ∈ owners ↔ other = row) ∧
        service.Registers call.user response row
  raised : ∀ (index : Nat) call error, pool.processes[index]? = some call →
    call.phase = .left (.error error) → ∀ row, (index, row) ∉ owners
  noAdmin : ∀ row ∈ pool.shared.rows, row.role = .admin → row ∈ users.rows
  emailsUnique : UniqueOn User.email pool.shared.rows
  silent : ∀ call ∈ pool.processes, call.session.SilentAfterCommit

section Runs

variable {environment : Machine.Environment ScopedCalls ScopedTurn (Option ScopedCall)}
  {requests : List RegisterRequestDto} {state : ScopedCalls}
  {past : Machine.History ScopedCalls ScopedTurn (Option ScopedCall)}

theorem inScope_start (documented : sqlAlchemy.Documented) {call : ScopedCall}
    (member : call ∈ (scopes sqlAlchemy users requests).processes) : self.InScope call := by
  rcases List.mem_map.mp member with ⟨user, -, rfl⟩
  exact documented.open_begin

theorem inScope_of_run (documented : sqlAlchemy.Documented)
    (acceptsOwn : self.passwordHasher.pwdContext.AcceptsOwn)
    (run : Machine.Run (self.scopedCalls sqlAlchemy) environment
      (scopes sqlAlchemy users requests) past state) :
    ∀ (index : Nat) call, state.processes[index]? = some call → self.InScope call := by
  apply Pool.each_invariant (fun _ call => self.InScope call) _ _ _ run
  · intro index call present
    exact inScope_start documented (List.mem_of_getElem? present)
  · intro earlier pool turn call _ _ _ inScope
    exact (proceeds_scopedAdvance documented acceptsOwn inScope pool.shared turn.input).inScope
  · intro earlier pool turn call bystander _ _ _ inScope
    exact inScope

/-- Concurrent calls in their scopes run as those of `Registration`. -/
theorem run_withoutScope (documented : sqlAlchemy.Documented)
    (acceptsOwn : self.passwordHasher.pwdContext.AcceptsOwn)
    (run : Machine.Run (self.scopedCalls sqlAlchemy) environment
      (scopes sqlAlchemy users requests) past state) :
    ∃ past', Machine.Run self.calls Machine.unrestricted (entering users requests) past'
      ⟨state.shared, state.processes.map ScopedCall.withoutScope⟩ := by
  rcases Pool.run_map ScopedCall.withoutScope ScopedDraw.withoutMoment
    (fun earlier pool turn call before _ scheduled =>
      advance_withoutScope documented (inScope_of_run documented acceptsOwn before _ _ scheduled)
        pool.shared turn.input) run with ⟨past', follows⟩
  have start : (scopes sqlAlchemy users requests).processes.map ScopedCall.withoutScope =
      (entering users requests).processes := by
    simp [scopes, entering, ScopedCall.withoutScope, Function.comp_def]
  rw [start] at follows
  exact ⟨past', follows⟩

/-- Registration is all or nothing, in every run of concurrent calls with faults
anywhere. -/
theorem registration_allOrNothing (documented : sqlAlchemy.Documented)
    (acceptsOwn : self.passwordHasher.pwdContext.AcceptsOwn)
    (run : Machine.Run (self.scopedCalls sqlAlchemy) Machine.unrestricted
      (scopes sqlAlchemy users requests) past state) :
    ∃ owners, self.AllOrNothing users requests owners state := by
  have inScope := inScope_of_run documented acceptsOwn run
  obtain ⟨owners, contributed⟩ := Pool.contributed UserTable.rows
    (fun call : ScopedCall => call.session.stored)
    (fun index call present => by
      rcases List.mem_map.mp (List.mem_of_getElem? present) with ⟨user, -, rfl⟩
      exact documented.open_begin.stored_eq_none)
    (fun earlier pool turn call before _ scheduled =>
      (proceeds_scopedAdvance documented acceptsOwn
        (inScope_of_run documented acceptsOwn before _ _ scheduled) pool.shared turn.input).stores)
    run
  have owned : ∀ index row, (index, row) ∈ owners → ∃ call response,
      state.processes[index]? = some call ∧ self.Registers call.user response row := by
    intro index row member
    rcases (contributed.owned index row).mp member with ⟨call, present, stored⟩
    rcases (registers_of_stored (inScope index call present) stored).1 with ⟨response, registers⟩
    exact ⟨call, response, present, registers⟩
  refine ⟨owners, ?_, contributed.appended, contributed.once, owned, ?_, ?_, ?_,
    state.shared.emailsUnique, ?_⟩
  · rw [Pool.labels_kept ScopedCall.user scopedAdvance_user run]
    simp [scopes, Function.comp_def]
  · intro index call response present returned
    rcases stored_of_returned (inScope index call present) returned with ⟨row, stored⟩
    refine ⟨row, ?_, (registers_of_stored (inScope index call present) stored).2.1 _ returned⟩
    intro other
    rw [contributed.owned, present]
    simp only [Option.some.injEq, exists_eq_left', stored]
    exact eq_comm
  · intro index call error present raised row member
    rcases (contributed.owned index row).mp member with ⟨owner, ownerPresent, stored⟩
    obtain rfl := Option.some.inj (present.symm.trans ownerPresent)
    exact (registers_of_stored (inScope index call present) stored).2.2 error raised
  · intro row member admin
    rw [contributed.appended] at member
    rcases List.mem_append.mp member with older | new
    · exact older
    · rcases List.mem_map.mp new with ⟨⟨index, other⟩, isOwned, rfl⟩
      obtain ⟨call, response, -, registers⟩ := owned index other isOwned
      cases registers.role.symm.trans admin
  · intro call member
    rcases List.mem_iff_getElem?.mp member with ⟨index, present⟩
    exact silent_of_inScope (inScope index call present)

end Runs

private def scopedTurnOf (index : Nat) (fault : Option SessionFault) : ScopedTurn :=
  ⟨index, ⟨"salt", ⟨index + 1, if index = 0 then "first" else "second"⟩, fault⟩⟩

/-- Both calls look the email up before either adds its row, then the commit of the
first one fails and the second one returns. -/
private def firstCommitFails : List ScopedTurn :=
  [0, 1, 0, 1, 0, 1].map (scopedTurnOf · none) ++
    scopedTurnOf 0 (some ⟨.after, .sqlAlchemyError "connection lost"⟩) ::
      [1, 0, 1, 1].map (scopedTurnOf · none)

private def twoScopes : ScopedCalls :=
  scopes referenceSQLAlchemy ⟨[], List.nodup_nil⟩ [referenceUser, referenceUser]

private def firstCommitFailed : ScopedCalls :=
  ((referenceAuthService.scopedCalls referenceSQLAlchemy).execute [] twoScopes firstCommitFails).2

theorem registration_allOrNothing_firstCommitFails :
    (∃ owners, referenceAuthService.AllOrNothing ⟨[], List.nodup_nil⟩
        [referenceUser, referenceUser] owners firstCommitFailed) ∧
      firstCommitFailed.processes.map ScopedCall.phase =
        [.left (.error (.httpException ⟨500, "connection lost"⟩)),
          .left (.ok ⟨"second", "user@example.com"⟩)] ∧
      firstCommitFailed.shared.rows =
        [⟨2, "user@example.com", "$argon2id$password", true, "second", .user⟩] := by
  refine ⟨?_, rfl, rfl⟩
  exact registration_allOrNothing referenceSQLAlchemy_documented referenceContext_acceptsOwn
    ((referenceAuthService.scopedCalls referenceSQLAlchemy).run_unrestricted twoScopes
      firstCommitFails)

end AuthService

end DemoBase.Backend
