import DemoBase.Backend.AuthService

/-!
Owns the session a request works on: `AsyncDBClient.session` and the operations of
SQLAlchemy under it. SQLAlchemy is a parameter; what the backend relies on is its
documented behaviour for a session that adds one object.
-/

set_option autoImplicit false

namespace DemoBase.Backend

inductive Statement where
  | select (email : String)
  | insert (row : User)
  | commit
  | rollback
deriving DecidableEq, Repr

/-- A session: how `async_sessionmaker` configured it, the objects added and not
flushed yet, whether the transaction of `begin()` is open, whether its objects are
expired, and the statements it sent, newest first. -/
structure AsyncSession where
  autoflush : Bool
  expireOnCommit : Bool
  new : List PendingUser
  inTransaction : Bool
  expired : Bool
  statements : List Statement
deriving DecidableEq, Repr

/-- The operations of a session. `load` reads attributes of its objects, `exit`
leaves `begin()` and is told whether an exception is on its way out. -/
structure SQLAlchemy where
  begin : AsyncSession → AsyncSession
  execute : UserTable → AsyncSession → String → Except PyException (Option User) × AsyncSession
  add : AsyncSession → PendingUser → AsyncSession
  commit : UserTable → AsyncSession → Generated → Except PyException UserTable × AsyncSession
  rollback : AsyncSession → AsyncSession
  load : AsyncSession → AsyncSession
  exit : UserTable → AsyncSession → Generated → Bool → Except PyException UserTable × AsyncSession

/-- What SQLAlchemy documents. The rows that a flush inserted are visible to nobody
before the commit, so the flush and the commit of one object are one step; and
`begin()` has nothing left to end when its transaction was ended inside. -/
structure SQLAlchemy.Documented (sqlAlchemy : SQLAlchemy) : Prop where
  begin : ∀ session, sqlAlchemy.begin session = { session with inTransaction := true }
  execute : ∀ users session email, session.autoflush = false →
    sqlAlchemy.execute users session email =
      (findUserByEmail users email,
        { session with statements := .select email :: session.statements })
  add : ∀ session user, sqlAlchemy.add session user = { session with new := session.new ++ [user] }
  commit : ∀ users session generated user after, session.new = [user] →
    users.insert (user.flush generated) = .ok after →
      sqlAlchemy.commit users session generated =
        (.ok after,
          { session with
            new := [], inTransaction := false, expired := session.expireOnCommit
            statements := .commit :: .insert (user.flush generated) :: session.statements })
  commitFails : ∀ users session generated user error, session.new = [user] →
    users.insert (user.flush generated) = .error error →
      sqlAlchemy.commit users session generated =
        (.error error, sqlAlchemy.rollback { session with
          statements := .insert (user.flush generated) :: session.statements })
  rollback : ∀ session, sqlAlchemy.rollback session =
    { session with
      new := [], inTransaction := false, statements := .rollback :: session.statements }
  load : ∀ session, session.expired = false → sqlAlchemy.load session = session
  exitEnded : ∀ users session generated raised, session.inTransaction = false →
    sqlAlchemy.exit users session generated raised = (.ok users, session)
  exitRaised : ∀ users session generated, session.inTransaction = true →
    sqlAlchemy.exit users session generated true = (.ok users, sqlAlchemy.rollback session)

/-- `AsyncDBClient.SessionLocal` as `from_url` makes it. -/
def AsyncDBClient.sessionLocal : AsyncSession where
  autoflush := false
  expireOnCommit := false
  new := []
  inTransaction := false
  expired := false
  statements := []

namespace AsyncSession

variable {self : AsyncSession}

/-- The row that the commit of this session stored, if it came to that. -/
def stored (self : AsyncSession) : Option User :=
  match self.statements with
  | .commit :: .insert row :: _ => some row
  | _ => none

/-- No statement ended the transaction. -/
def Unended (statements : List Statement) : Prop :=
  ∀ statement ∈ statements, statement ≠ .commit ∧ statement ≠ .rollback

/-- The transaction is open, and these objects wait for a flush. -/
structure Open (new : List PendingUser) (session : AsyncSession) : Prop where
  new : session.new = new
  inTransaction : session.inTransaction = true
  configured : session.autoflush = false ∧ session.expireOnCommit = false
  expired : session.expired = false
  unended : Unended session.statements

/-- The transaction was committed with this row, and nothing came after. -/
structure Committed (row : User) (session : AsyncSession) : Prop where
  inTransaction : session.inTransaction = false
  expired : session.expired = false
  statements : ∃ older, session.statements = .commit :: .insert row :: older ∧ Unended older

/-- The transaction was rolled back, and nothing came after. -/
structure RolledBack (session : AsyncSession) : Prop where
  inTransaction : session.inTransaction = false
  statements : ∃ older, session.statements = .rollback :: older ∧ Unended older

theorem Unended.cons {statement : Statement} {statements : List Statement}
    (unended : Unended statements) (noCommit : statement ≠ .commit)
    (noRollback : statement ≠ .rollback) : Unended (statement :: statements) :=
  List.forall_mem_cons.mpr ⟨⟨noCommit, noRollback⟩, unended⟩

theorem Open.stored_eq_none {new : List PendingUser} (isOpen : Open new self) :
    self.stored = none := by
  unfold stored
  cases statements : self.statements with
  | nil => rfl
  | cons statement older =>
      have notCommit := (isOpen.unended statement (by simp [statements])).1
      cases statement with
      | commit => exact absurd rfl notCommit
      | select email => rfl
      | insert row => rfl
      | rollback => rfl

theorem Committed.stored_eq_some {row : User} (committed : Committed row self) :
    self.stored = some row := by
  obtain ⟨older, statements, -⟩ := committed.statements
  simp only [stored, statements]

theorem RolledBack.stored_eq_none (rolledBack : RolledBack self) : self.stored = none := by
  obtain ⟨older, statements, -⟩ := rolledBack.statements
  simp only [stored, statements]

/-- No statement was sent after a commit. -/
def SilentAfterCommit (self : AsyncSession) : Prop :=
  ∀ newer older, self.statements = newer ++ .commit :: older → newer = []

theorem Open.silentAfterCommit {new : List PendingUser} (isOpen : Open new self) :
    self.SilentAfterCommit := by
  intro newer older split
  have commit := (isOpen.unended .commit (by simp [split])).1
  exact absurd rfl commit

theorem Committed.silentAfterCommit {row : User} (committed : Committed row self) :
    self.SilentAfterCommit := by
  obtain ⟨before, statements, unended⟩ := committed.statements
  intro newer older split
  rw [statements] at split
  cases newer with
  | nil => rfl
  | cons last between =>
      have rest := (List.cons.inj split).2
      have member : Statement.commit ∈ .insert row :: before := by simp [rest]
      have commit := (unended.cons (by simp) (by simp) .commit member).1
      exact absurd rfl commit

theorem RolledBack.silentAfterCommit (rolledBack : RolledBack self) : self.SilentAfterCommit := by
  obtain ⟨before, statements, unended⟩ := rolledBack.statements
  intro newer older split
  rw [statements] at split
  cases newer with
  | nil => cases (List.cons.inj split).1
  | cons last between =>
      have rest := (List.cons.inj split).2
      have commit := (unended .commit (by simp [rest])).1
      exact absurd rfl commit

end AsyncSession

namespace SQLAlchemy.Documented

open AsyncSession

variable {self : SQLAlchemy} {session : AsyncSession} {new : List PendingUser}

theorem open_begin (documented : self.Documented) :
    Open [] (self.begin AsyncDBClient.sessionLocal) := by
  rw [documented.begin]
  refine ⟨rfl, rfl, ⟨rfl, rfl⟩, rfl, ?_⟩
  intro statement member
  cases member

theorem open_execute (documented : self.Documented) (isOpen : Open new session)
    (users : UserTable) (email : String) :
    (self.execute users session email).1 = findUserByEmail users email ∧
      Open new (self.execute users session email).2 := by
  rw [documented.execute users session email isOpen.configured.1]
  refine ⟨rfl, isOpen.new, isOpen.inTransaction, isOpen.configured, isOpen.expired, ?_⟩
  exact isOpen.unended.cons (by simp) (by simp)

theorem open_add (documented : self.Documented) (isOpen : Open new session) (user : PendingUser) :
    Open (new ++ [user]) (self.add session user) := by
  rw [documented.add]
  exact ⟨by rw [isOpen.new], isOpen.inTransaction, isOpen.configured, isOpen.expired,
    isOpen.unended⟩

theorem rolledBack_rollback (documented : self.Documented) (isOpen : Open new session) :
    RolledBack (self.rollback session) := by
  rw [documented.rollback]
  exact ⟨rfl, session.statements, rfl, isOpen.unended⟩

/-- The explicit commit stores the row or has no effect. -/
theorem commit_cases (documented : self.Documented) {user : PendingUser}
    (isOpen : Open [user] session) (users : UserTable) (generated : Generated) :
    (∃ after, users.insert (user.flush generated) = .ok after ∧
        (self.commit users session generated).1 = .ok after ∧
        Committed (user.flush generated) (self.commit users session generated).2) ∨
      ∃ error, users.insert (user.flush generated) = .error error ∧
        (self.commit users session generated).1 = .error error ∧
        RolledBack (self.commit users session generated).2 := by
  cases inserted : users.insert (user.flush generated) with
  | ok after =>
      left
      rw [documented.commit users session generated user after isOpen.new inserted]
      exact ⟨after, rfl, rfl, rfl, isOpen.configured.2, session.statements, rfl, isOpen.unended⟩
  | error error =>
      right
      rw [documented.commitFails users session generated user error isOpen.new inserted]
      refine ⟨error, rfl, rfl, ?_⟩
      have inserted : Open [user]
          { session with statements := .insert (user.flush generated) :: session.statements } :=
        ⟨isOpen.new, isOpen.inTransaction, isOpen.configured, isOpen.expired,
          isOpen.unended.cons (by simp) (by simp)⟩
      exact documented.rolledBack_rollback inserted

theorem load_committed (documented : self.Documented) {row : User}
    (committed : Committed row session) : self.load session = session :=
  documented.load session committed.expired

/-- Leaving `begin()` with an exception ends in a rollback. -/
theorem exit_raised (documented : self.Documented)
    (isOpenOrEnded : (∃ new, Open new session) ∨ RolledBack session)
    (users : UserTable) (generated : Generated) :
    (self.exit users session generated true).1 = .ok users ∧
      RolledBack (self.exit users session generated true).2 := by
  rcases isOpenOrEnded with ⟨new, isOpen⟩ | rolledBack
  · rw [documented.exitRaised users session generated isOpen.inTransaction]
    exact ⟨rfl, documented.rolledBack_rollback isOpen⟩
  · rw [documented.exitEnded users session generated true rolledBack.inTransaction]
    exact ⟨rfl, rolledBack⟩

end SQLAlchemy.Documented

/-! ### Executable sessions -/

def referenceRollback (session : AsyncSession) : AsyncSession :=
  { session with new := [], inTransaction := false, statements := .rollback :: session.statements }

/-- One object is flushed and committed. A session with several is not used. -/
def referenceCommit (users : UserTable) (session : AsyncSession) (generated : Generated) :
    Except PyException UserTable × AsyncSession :=
  match session.new with
  | [user] =>
      let row := user.flush generated
      let inserted := { session with statements := .insert row :: session.statements }
      match users.insert row with
      | .error error => (.error error, referenceRollback inserted)
      | .ok after =>
          (.ok after,
            { inserted with
              new := [], inTransaction := false, expired := session.expireOnCommit
              statements := .commit :: inserted.statements })
  | _ => (.ok users, { session with new := [], inTransaction := false })

def referenceSQLAlchemy : SQLAlchemy where
  begin := fun session => { session with inTransaction := true }
  execute := fun users session email =>
    (findUserByEmail users email,
      { session with statements := .select email :: session.statements })
  add := fun session user => { session with new := session.new ++ [user] }
  commit := referenceCommit
  rollback := referenceRollback
  load := fun session => session
  exit := fun users session generated raised =>
    if session.inTransaction then
      if raised then (.ok users, referenceRollback session)
      else referenceCommit users session generated
    else (.ok users, session)

theorem referenceSQLAlchemy_documented : referenceSQLAlchemy.Documented where
  begin := fun _ => rfl
  execute := fun _ _ _ _ => rfl
  add := fun _ _ => rfl
  commit := by
    intro users session generated user after new inserted
    show referenceCommit users session generated = _
    simp only [referenceCommit, new, inserted]
  commitFails := by
    intro users session generated user error new inserted
    show referenceCommit users session generated = _
    simp only [referenceCommit, new, inserted]
    rfl
  rollback := fun _ => rfl
  load := fun _ _ => rfl
  exitEnded := by
    intro users session generated raised ended
    simp [referenceSQLAlchemy, ended]
  exitRaised := by
    intro users session generated isOpen
    simp [referenceSQLAlchemy, isOpen]

end DemoBase.Backend
