import DemoBase.Backend.Registration

/-!
Owns the outcome of concurrent registrations for one email. Exactly one of them
stores a row. The others are told of the conflict by the existence check, or by
the unique index when the row appeared between their check and their commit; the
second way is reported as an internal error.
-/

set_option autoImplicit false

namespace DemoBase.Backend

open DemoBase.Foundations

/-- Some row has this email. -/
def Taken (users : UserTable) (email : String) : Prop := ∃ row ∈ users.rows, row.email = email

/-- Hashing succeeds, no fault strikes, and the sequence and `uuid4()` give new
values: only the email can keep a row out. -/
def NoOtherFault (self : AuthService) : Machine.Environment Calls CallTurn (Option Call) :=
  fun _ pool turn =>
    turn.input.fault = none ∧
      (∀ row ∈ pool.shared.rows, row.id ≠ turn.input.generated.id ∧
        row.userUuid ≠ turn.input.generated.userUuid) ∧
      ∀ call, pool.processes[turn.index]? = some call →
        ∃ newUser, self.buildUser call.user turn.input.salt = .ok newUser

/-- The call scheduled is about to commit an email that the table has by now. -/
def CommitsTaken (pool : Calls) (turn : CallTurn) : Prop :=
  ∃ call newUser, pool.processes[turn.index]? = some call ∧ call.phase = .added newUser ∧
    Taken pool.shared newUser.email

/-- The call returned and was for this email. -/
def Call.ReturnedFor (call : Call) (email : String) : Prop :=
  call.user.email = email ∧ ∃ response, call.phase = .finished (.ok response)

def Returned (pool : Calls) (index : Nat) (email : String) : Prop :=
  ∃ call, pool.processes[index]? = some call ∧ call.ReturnedFor email

/-- For each requested email exactly one call returns if it was free at the
start and none otherwise, and every exception is the conflict. -/
structure ConflictsReported (users : UserTable) (requests : List RegisterRequestDto)
    (pool : Calls) : Prop where
  once : ∀ user ∈ requests, ¬ Taken users user.email →
    ∃! index, Returned pool index user.email
  never : ∀ email, Taken users email → ∀ index, ¬ Returned pool index email
  conflict : ∀ (index : Nat) call, pool.processes[index]? = some call →
    ∀ error, call.phase = .finished (.error error) →
      error = .httpException (userExistsException call.user.email)

namespace AuthService

variable {self : AuthService} {users : UserTable} {requests : List RegisterRequestDto}

/-! ### What holds of each call -/

theorem taken_advance {table : UserTable} {email : String} (taken : Taken table email)
    (call : Call) (draw : Draw) : Taken (self.advance table call draw).1 email := by
  obtain ⟨row, member, same⟩ := taken
  exact ⟨row, advance_rows table call draw row member, same⟩

/-- A pending call carries its own email. A call that returned has stored an
email that was free at the start, a call that raised has met its email. -/
def Sound (initial table : UserTable) (call : Call) : Prop :=
  match call.phase with
  | .entered => True
  | .built newUser => newUser.email = call.user.email
  | .checked newUser => newUser.email = call.user.email
  | .added newUser => newUser.email = call.user.email
  | .finished (.ok _) => ¬ Taken initial call.user.email ∧ Taken table call.user.email
  | .finished (.error _) => Taken table call.user.email

/-- What can raise when no other fault occurs. -/
theorem turn_error {table : UserTable} {call : Call} {draw : Draw} {error : PyException}
    (calm : draw.fault = none)
    (builds : ∃ newUser, self.buildUser call.user draw.salt = .ok newUser)
    (fresh : ∀ row ∈ table.rows, row.id ≠ draw.generated.id ∧
      row.userUuid ≠ draw.generated.userUuid)
    (raised : self.turn table call draw = .error error) :
    (∃ newUser, call.phase = .built newUser ∧ Taken table newUser.email ∧
        error = .httpException (userExistsException newUser.email)) ∨
      ∃ newUser, call.phase = .added newUser ∧ Taken table newUser.email := by
  unfold turn at raised
  simp only [calm, struck, Option.map_none] at raised
  split at raised
  · obtain ⟨newUser, built⟩ := builds
    rw [built] at raised
    cases raised
  · rename_i newUser built
    rcases checkAbsent_total table newUser with absent | ⟨conflict, taken⟩
    · rw [absent] at raised
      cases raised
    · rw [conflict] at raised
      exact Or.inl ⟨newUser, built, taken, (Except.error.inj raised).symm⟩
  · cases raised
  · rename_i newUser added
    refine Or.inr ⟨newUser, added, ?_⟩
    by_contra free
    have emailFree : ∀ row ∈ table.rows, row.email ≠ (newUser.flush draw.generated).email :=
      fun row member same => free ⟨row, member, same⟩
    obtain ⟨after, inserted, -⟩ := UserTable.insert_of_fresh
      (fun row member => (fresh row member).1) (fun row member => (fresh row member).2) emailFree
    rw [addAndCommit, inserted] at raised
    cases raised
  · cases raised

theorem sound_mono {initial table later : UserTable} {call : Call}
    (grows : ∀ email, Taken table email → Taken later email)
    (sound : Sound initial table call) : Sound initial later call := by
  obtain ⟨user, phase⟩ := call
  cases phase with
  | entered => exact sound
  | built newUser => exact sound
  | checked newUser => exact sound
  | added newUser => exact sound
  | finished result =>
      cases result with
      | ok response => exact ⟨sound.1, grows _ sound.2⟩
      | error error => exact grows _ sound

/-- The email a pending call is about. -/
theorem sound_pending {initial table : UserTable} {call : Call} {newUser : PendingUser}
    (sound : Sound initial table call)
    (pending : call.phase = .built newUser ∨ call.phase = .checked newUser ∨
      call.phase = .added newUser) : newUser.email = call.user.email := by
  unfold Sound at sound
  rcases pending with built | checked | added
  · rwa [built] at sound
  · rwa [checked] at sound
  · rwa [added] at sound

/-- One turn keeps the invariant of its call. -/
theorem sound_advance {initial table : UserTable} {call : Call} {draw : Draw}
    (calm : draw.fault = none)
    (builds : ∃ newUser, self.buildUser call.user draw.salt = .ok newUser)
    (fresh : ∀ row ∈ table.rows, row.id ≠ draw.generated.id ∧
      row.userUuid ≠ draw.generated.userUuid)
    (kept : ∀ email, Taken initial email → Taken table email)
    (sound : Sound initial table call) :
    Sound initial (self.advance table call draw).1 (self.advance table call draw).2 := by
  unfold advance
  cases outcome : self.turn table call draw with
  | error error =>
      show Taken table call.user.email
      rcases turn_error calm builds fresh outcome with ⟨newUser, built, taken, -⟩ |
        ⟨newUser, added, taken⟩
      · rwa [sound_pending sound (Or.inl built)] at taken
      · rwa [sound_pending sound (Or.inr (Or.inr added))] at taken
  | ok left =>
      obtain ⟨after, phase⟩ := left
      rcases turn_ok outcome with ⟨newUser, -, built, rfl, rfl⟩ | ⟨newUser, built, -, rfl, rfl⟩ |
        ⟨newUser, checked, rfl, rfl⟩ | ⟨newUser, added, committed, rfl⟩ |
        ⟨result, finished, rfl, rfl⟩
      · exact (buildUser_ok built).1
      · have own := sound_pending sound (Or.inl built)
        exact own
      · have own := sound_pending sound (Or.inr (Or.inl checked))
        exact own
      · rcases addAndCommit_ok committed with ⟨appended, free⟩
        have own : newUser.email = call.user.email :=
          sound_pending sound (Or.inr (Or.inr added))
        have stored : Taken after call.user.email := by
          refine ⟨newUser.flush draw.generated, ?_, own⟩
          rw [appended]
          exact List.mem_append_right _ List.mem_cons_self
        have wasFree : ¬ Taken initial call.user.email := by
          intro taken
          rcases kept _ taken with ⟨row, member, same⟩
          exact free row member (same.trans own.symm)
        exact ⟨wasFree, stored⟩
      · show Sound initial _ ⟨call.user, .finished result⟩
        rw [← finished]
        exact sound

/-- A call returns in the turn that commits its row, and stays so. -/
theorem returnedFor_advance {table : UserTable} {call : Call} {draw : Draw} {email : String}
    (returned : (self.advance table call draw).2.ReturnedFor email) :
    call.ReturnedFor email ∨
      ∃ newUser after, call.phase = .added newUser ∧
        addAndCommit table newUser draw.generated = .ok after ∧ call.user.email = email := by
  obtain ⟨sameEmail, response, isOk⟩ := returned
  rw [advance_user] at sameEmail
  unfold advance at isOk
  cases outcome : self.turn table call draw with
  | error error => simp [outcome] at isOk
  | ok left =>
      obtain ⟨after, phase⟩ := left
      simp only [outcome] at isOk
      rcases turn_ok outcome with ⟨_, -, -, -, built⟩ | ⟨_, -, -, -, checked⟩ |
        ⟨_, -, -, added⟩ | ⟨newUser, added, committed, -⟩ | ⟨result, finished, -, stays⟩
      · cases built.symm.trans isOk
      · cases checked.symm.trans isOk
      · cases added.symm.trans isOk
      · exact Or.inr ⟨newUser, after, added, committed, sameEmail⟩
      · exact Or.inl ⟨sameEmail, response, finished.trans (stays.symm.trans isOk)⟩

theorem returnedFor_advance_of_returned {table : UserTable} {call : Call} {email : String}
    (returned : call.ReturnedFor email) (draw : Draw) :
    (self.advance table call draw).2.ReturnedFor email := by
  obtain ⟨sameEmail, response, finished⟩ := returned
  rw [advance_finished finished]
  exact ⟨sameEmail, response, finished⟩

/-- A turn adds an email to the table by letting its call return. -/
theorem taken_of_advance {initial table : UserTable} {call : Call} {draw : Draw} {email : String}
    (sound : Sound initial table call)
    (taken : Taken (self.advance table call draw).1 email) :
    Taken table email ∨ (self.advance table call draw).2.ReturnedFor email := by
  unfold advance at taken ⊢
  cases outcome : self.turn table call draw with
  | error error =>
      rw [outcome] at taken
      exact Or.inl taken
  | ok left =>
      obtain ⟨after, phase⟩ := left
      rw [outcome] at taken
      change Taken after email at taken
      rcases turn_ok outcome with ⟨-, -, -, rfl, -⟩ | ⟨-, -, -, rfl, -⟩ | ⟨-, -, rfl, -⟩ |
        ⟨newUser, added, committed, rfl⟩ | ⟨-, -, rfl, -⟩
      · exact Or.inl taken
      · exact Or.inl taken
      · exact Or.inl taken
      · obtain ⟨row, member, same⟩ := taken
        rw [(addAndCommit_ok committed).1] at member
        rcases List.mem_append.mp member with older | new
        · exact Or.inl ⟨row, older, same⟩
        · obtain rfl := List.mem_singleton.mp new
          have own := sound_pending sound (Or.inr (Or.inr added))
          exact Or.inr ⟨own.symm.trans same, _, rfl⟩
      · exact Or.inl taken

section Runs

variable {environment : Machine.Environment Calls CallTurn (Option Call)} {state : Calls}
  {past : Machine.History Calls CallTurn (Option Call)}

theorem taken_of_start (run : Machine.Run self.calls environment (entering users requests) past
    state) : ∀ email, Taken users email → Taken state.shared email := by
  intro email taken
  refine Pool.shared_invariant (Taken · email) taken ?_ run
  intro earlier pool turn call _ _ _ held
  exact taken_advance held call turn.input

/-- The calls are the requests, whatever became of them. -/
theorem calls_users (run : Machine.Run self.calls environment (entering users requests) past
    state) : state.processes.map Call.user = requests := by
  rw [Pool.labels_kept Call.user advance_user run]
  simp [entering, Function.comp_def]

/-- The invariant of every call, where no other fault occurs. -/
theorem sound_of_run (run : Machine.Run self.calls (NoOtherFault self) (entering users requests)
    past state) :
    ∀ (index : Nat) call, state.processes[index]? = some call →
      Sound users state.shared call := by
  refine Pool.each_invariant (Sound users) ?_ ?_ ?_ run
  · intro index call present
    have member := List.mem_of_getElem? present
    rcases List.mem_map.mp member with ⟨user, -, rfl⟩
    trivial
  · intro earlier pool turn call before allowed scheduled sound
    exact sound_advance allowed.1 (allowed.2.2 call scheduled) allowed.2.1
      (taken_of_start before) sound
  · intro earlier pool turn call bystander _ _ _ sound
    exact sound_mono (fun email taken => taken_advance taken call turn.input) sound

/-- No two calls for one email return. -/
theorem returned_unique (run : Machine.Run self.calls (NoOtherFault self)
    (entering users requests) past state) {email : String} {first second : Nat}
    (firstReturned : Returned state first email) (secondReturned : Returned state second email) :
    first = second := by
  obtain ⟨left, atFirst, leftReturned⟩ := firstReturned
  obtain ⟨right, atSecond, rightReturned⟩ := secondReturned
  by_contra different
  have apart := Pool.pair_invariant
    (fun left right : Call => ∀ email, left.ReturnedFor email → ¬ right.ReturnedFor email)
    (fun notBoth email leftReturned rightReturned => notBoth email rightReturned leftReturned)
    ?_ ?_ run first second left right different atFirst atSecond
  · exact apart email leftReturned rightReturned
  · intro first second left right _ atFirst _ email leftReturned _
    rcases List.mem_map.mp (List.mem_of_getElem? atFirst) with ⟨user, -, rfl⟩
    obtain ⟨-, response, impossible⟩ := leftReturned
    cases impossible
  · intro earlier pool turn mover second right before allowed scheduled other present notBoth
      email moverReturned rightReturned
    rcases returnedFor_advance moverReturned with already | ⟨newUser, after, added, committed, own⟩
    · exact notBoth email already rightReturned
    · -- The row of the call that returned before keeps the mover's commit out.
      have moverSound := sound_of_run before _ _ scheduled
      have rightSound := sound_of_run before _ _ present
      obtain ⟨sameEmail, response, finished⟩ := rightReturned
      unfold Sound at rightSound
      rw [finished] at rightSound
      rcases rightSound.2 with ⟨row, member, rowEmail⟩
      have free := (addAndCommit_ok committed).2 row member
      have pending := sound_pending moverSound (Or.inr (Or.inr added))
      rw [rowEmail, sameEmail, pending, own] at free
      exact free rfl

/-- Every email in the table was there at the start or is that of a call that
returned. -/
theorem taken_by_returned (run : Machine.Run self.calls (NoOtherFault self)
    (entering users requests) past state) :
    ∀ email, Taken state.shared email → Taken users email ∨ ∃ index, Returned state index email := by
  apply run.invariant
  · exact fun email taken => Or.inl taken
  · intro earlier pool turn before allowed held email taken
    have stays : ∀ index, Returned pool index email →
        Returned (self.calls.next pool turn) index email := by
      intro index returned
      obtain ⟨call, present, isReturned⟩ := returned
      by_cases isMover : index = turn.index
      · subst isMover
        exact ⟨_, Pool.get_next_self present, returnedFor_advance_of_returned isReturned _⟩
      · exact ⟨call, (Pool.get_next_other isMover).trans present, isReturned⟩
    have known : Taken pool.shared email →
        Taken users email ∨ ∃ index, Returned (self.calls.next pool turn) index email := by
      intro before
      rcases held email before with initial | ⟨index, returned⟩
      · exact Or.inl initial
      · exact Or.inr ⟨index, stays index returned⟩
    cases scheduled : pool.processes[turn.index]? with
    | none =>
        rw [Pool.next_of_none scheduled] at taken
        exact known taken
    | some call =>
        rw [Pool.next_of_some scheduled] at taken
        rcases taken_of_advance (sound_of_run before _ _ scheduled) taken with earlier | returned
        · exact known earlier
        · exact Or.inr ⟨turn.index, _, Pool.get_next_self scheduled, returned⟩

/-- When all calls have finished, each requested email that was free at the start
has let exactly one of them return, and the others none. -/
theorem returned_once (run : Machine.Run self.calls (NoOtherFault self) (entering users requests)
    past state) (complete : ∀ call ∈ state.processes, ∃ result, call.phase = .finished result) :
    (∀ user ∈ requests, ¬ Taken users user.email → ∃! index, Returned state index user.email) ∧
      ∀ email, Taken users email → ∀ index, ¬ Returned state index email := by
  constructor
  · intro user requested free
    rw [← calls_users run] at requested
    rcases List.mem_map.mp requested with ⟨call, member, rfl⟩
    rcases List.mem_iff_getElem?.mp member with ⟨index, present⟩
    have someReturned : ∃ index, Returned state index call.user.email := by
      rcases complete call member with ⟨result, finished⟩
      cases result with
      | ok response => exact ⟨index, call, present, rfl, response, finished⟩
      | error error =>
          have sound := sound_of_run run index call present
          unfold Sound at sound
          rw [finished] at sound
          exact (taken_by_returned run _ sound).resolve_left free
    obtain ⟨first, returned⟩ := someReturned
    exact ⟨first, returned, fun other otherReturned => returned_unique run otherReturned returned⟩
  · intro email taken index returned
    obtain ⟨call, present, rfl, response, finished⟩ := returned
    have sound := sound_of_run run index call present
    unfold Sound at sound
    rw [finished] at sound
    exact sound.1 taken

/-- A commit that meets its email ends the call with the internal error. -/
theorem advance_of_taken {table : UserTable} {call : Call} {draw : Draw} {newUser : PendingUser}
    (calm : draw.fault = none) (added : call.phase = .added newUser)
    (taken : Taken table newUser.email) :
    ∃ detail, (self.advance table call draw).2 =
      ⟨call.user, .finished (.error (.httpException (userCreateInternalErrorException detail)))⟩ := by
  obtain ⟨row, member, same⟩ := taken
  obtain ⟨violated, rejected⟩ : ∃ index, table.insert (newUser.flush draw.generated) =
      .error (uniqueViolation index) := UserTable.insert_of_taken member same
  have raised : self.turn table call draw = .error (wrapCreateError (uniqueViolation violated)) := by
    unfold turn
    rw [added, calm]
    simp only [struck, Option.map_none, addAndCommit, rejected, Except.mapError, Except.map]
  refine ⟨(uniqueViolation violated).str, ?_⟩
  unfold advance
  rw [raised]
  rfl

/-- Every exception a call has ended with is the conflict for its own email. -/
def OnlyConflicts (call : Call) : Prop :=
  ∀ error, call.phase = .finished (.error error) →
    error = .httpException (userExistsException call.user.email)

/-- A turn that does not commit a taken email raises nothing but the conflict. -/
theorem onlyConflicts_advance {initial table : UserTable} {call : Call} {draw : Draw}
    (calm : draw.fault = none)
    (builds : ∃ newUser, self.buildUser call.user draw.salt = .ok newUser)
    (fresh : ∀ row ∈ table.rows, row.id ≠ draw.generated.id ∧
      row.userUuid ≠ draw.generated.userUuid)
    (sound : Sound initial table call)
    (commitsFree : ∀ newUser, call.phase = .added newUser → ¬ Taken table newUser.email)
    (conflicts : OnlyConflicts call) : OnlyConflicts (self.advance table call draw).2 := by
  intro error finished
  rw [advance_user]
  unfold advance at finished
  cases outcome : self.turn table call draw with
  | error raised =>
      simp only [outcome, Phase.finished.injEq, Except.error.injEq] at finished
      rcases turn_error calm builds fresh outcome with
        ⟨newUser, built, -, conflict⟩ | ⟨newUser, added, taken⟩
      · have own := sound_pending sound (Or.inl built)
        rw [← finished, conflict, own]
        rfl
      · exact absurd taken (commitsFree newUser added)
  | ok left =>
      obtain ⟨after, phase⟩ := left
      simp only [outcome] at finished
      rcases turn_ok outcome with ⟨_, -, -, -, built⟩ | ⟨_, -, -, -, checked⟩ |
        ⟨_, -, -, added⟩ | ⟨_, -, -, registered⟩ | ⟨result, already, -, stays⟩
      · cases built.symm.trans finished
      · cases checked.symm.trans finished
      · cases added.symm.trans finished
      · cases registered.symm.trans finished
      · exact conflicts error (already.trans (stays.symm.trans finished))

/-- A call that committed a taken email ends the run with the internal error. -/
theorem internalError_of_commitsTaken (run : Machine.Run self.calls (NoOtherFault self)
    (entering users requests) past state) {answered : Machine.Entry Calls CallTurn (Option Call)}
    (member : answered ∈ past) (commits : CommitsTaken answered.before answered.input) :
    ∃ (index : Nat) (user : RegisterRequestDto) (detail : String),
      state.processes[index]? = some ⟨user, .finished (.error (.httpException
        (userCreateInternalErrorException detail)))⟩ := by
  obtain ⟨call, newUser, scheduled, added, taken⟩ := commits
  rcases run.of_mem member with ⟨_, -, allowed, -⟩
  obtain ⟨detail, raised⟩ : ∃ detail, (self.advance answered.before.shared call
      answered.input.input).2 = ⟨call.user, .finished (.error (.httpException
        (userCreateInternalErrorException detail)))⟩ :=
    advance_of_taken allowed.1 added taken
  have present : (self.calls.next answered.before answered.input).processes[
      answered.input.index]? = some (self.advance answered.before.shared call
        answered.input.input).2 := Pool.get_next_self scheduled
  rw [raised] at present
  have settled : ∀ table draw, (self.advance table ⟨call.user, .finished (.error (.httpException
      (userCreateInternalErrorException detail)))⟩ draw).2 = ⟨call.user, .finished (.error
        (.httpException (userCreateInternalErrorException detail)))⟩ := by
    intro table draw
    rw [advance_finished rfl]
  exact ⟨answered.input.index, call.user, detail, Pool.settled_stays settled run member present⟩

theorem userCreateInternalErrorException_ne_conflict (detail email : String) :
    userCreateInternalErrorException detail ≠ userExistsException email := by
  intro same
  have sameStatus : (500 : Nat) = 409 := congrArg HTTPException.statusCode same
  omega

/-- In every complete run without other faults, duplicates are reported as
conflicts exactly when no call commits an email that was stored after the call
had checked for it. -/
theorem conflictsReported_iff (run : Machine.Run self.calls (NoOtherFault self)
    (entering users requests) past state)
    (complete : ∀ call ∈ state.processes, ∃ result, call.phase = .finished result) :
    ConflictsReported users requests state ↔
      ∀ answered ∈ past, ¬ CommitsTaken answered.before answered.input := by
  rcases returned_once run complete with ⟨once, never⟩
  constructor
  · intro reported answered member commits
    rcases internalError_of_commitsTaken run member commits with ⟨index, user, detail, present⟩
    have conflict := reported.conflict index _ present _ rfl
    exact userCreateInternalErrorException_ne_conflict detail user.email
      (PyException.httpException.inj conflict)
  · intro calm
    have demanded := run.strengthen (fun pool turn => ¬ CommitsTaken pool turn) calm
    refine ⟨once, never, ?_⟩
    refine Pool.each_invariant (fun _ call => OnlyConflicts call) ?_ ?_ ?_ demanded
    · intro index call present error finished
      rcases List.mem_map.mp (List.mem_of_getElem? present) with ⟨user, -, rfl⟩
      cases finished
    · intro earlier pool turn call before allowed scheduled conflicts
      have sound := sound_of_run (before.weaken fun _ _ _ both => both.1) _ _ scheduled
      have commitsFree : ∀ newUser, call.phase = .added newUser →
          ¬ Taken pool.shared newUser.email := by
        intro newUser added taken
        exact allowed.2 ⟨call, newUser, scheduled, added, taken⟩
      exact onlyConflicts_advance allowed.1.1 (allowed.1.2.2 call scheduled) allowed.1.2.1 sound
        commitsFree conflicts
    · intro earlier pool turn call bystander _ _ _ conflicts
      exact conflicts

end Runs

/-! ### Two calls for one email -/

private def turnOf (index : Nat) : CallTurn :=
  ⟨index, ⟨"salt", ⟨index + 1, if index = 0 then "first" else "second"⟩, none⟩⟩

private def twoCalls : Calls := entering ⟨[], List.nodup_nil⟩ [referenceUser, referenceUser]

/-- One call runs after the other. -/
private def oneAfterTheOther : List CallTurn := [0, 0, 0, 0, 1, 1].map turnOf

/-- Both calls check before either commits. -/
private def bothCheckFirst : List CallTurn := [0, 1, 0, 1, 0, 1, 0, 1].map turnOf

private theorem referenceAuthService_builds (user : RegisterRequestDto) (salt : String) :
    ∃ newUser, referenceAuthService.buildUser user salt = .ok newUser := ⟨_, rfl⟩

theorem conflictsReported_oneAfterTheOther :
    ConflictsReported ⟨[], List.nodup_nil⟩ [referenceUser, referenceUser]
      (referenceAuthService.calls.execute [] twoCalls oneAfterTheOther).2 := by
  have allows : referenceAuthService.calls.Allows (NoOtherFault referenceAuthService) [] twoCalls
      oneAfterTheOther := by
    refine ⟨?_, ?_, ?_, ?_, ?_, ?_, trivial⟩
    all_goals exact ⟨rfl, by decide, fun call _ => referenceAuthService_builds call.user _⟩
  have run := referenceAuthService.calls.run_execute .start allows
  have processes : (referenceAuthService.calls.execute [] twoCalls oneAfterTheOther).2.processes =
      [⟨referenceUser, .finished (.ok ⟨"first", "user@example.com"⟩)⟩,
        ⟨referenceUser, .finished (.error (.httpException
          (userExistsException "user@example.com")))⟩] := by
    rfl
  have complete : ∀ call ∈ (referenceAuthService.calls.execute [] twoCalls
      oneAfterTheOther).2.processes, ∃ result, call.phase = .finished result := by
    intro call member
    rw [processes] at member
    simp only [List.mem_cons, List.not_mem_nil, or_false] at member
    rcases member with rfl | rfl
    · exact ⟨_, rfl⟩
    · exact ⟨_, rfl⟩
  refine (conflictsReported_iff run complete).mpr ?_
  intro answered member commits
  obtain ⟨call, newUser, scheduled, added, row, inTable, -⟩ := commits
  simp only [oneAfterTheOther, List.map_cons, List.map_nil, Machine.execute, List.mem_cons,
    List.not_mem_nil, or_false] at member
  rcases member with rfl | rfl | rfl | rfl | rfl | rfl
  all_goals cases scheduled
  all_goals cases added
  -- Only the commit of the first call is left, and the table is still empty then.
  cases inTable

/-- The call that loses to the unique index answers with an internal error. -/
theorem conflictsReported_fails_when_both_check_first :
    ¬ ∀ (self : AuthService) (users : UserTable) (requests : List RegisterRequestDto)
        (past : Machine.History Calls CallTurn (Option Call)) (state : Calls),
        Machine.Run self.calls (NoOtherFault self) (entering users requests) past state →
        (∀ call ∈ state.processes, ∃ result, call.phase = .finished result) →
        ConflictsReported users requests state := by
  intro always
  have allows : referenceAuthService.calls.Allows (NoOtherFault referenceAuthService) [] twoCalls
      bothCheckFirst := by
    refine ⟨?_, ?_, ?_, ?_, ?_, ?_, ?_, ?_, trivial⟩
    all_goals exact ⟨rfl, by decide, fun call _ => referenceAuthService_builds call.user _⟩
  have run := referenceAuthService.calls.run_execute .start allows
  have processes : (referenceAuthService.calls.execute [] twoCalls bothCheckFirst).2.processes =
      [⟨referenceUser, .finished (.ok ⟨"first", "user@example.com"⟩)⟩,
        ⟨referenceUser, .finished (.error (.httpException (userCreateInternalErrorException
          (uniqueViolation "ix_users_email").str)))⟩] := by
    rfl
  have reported := always referenceAuthService _ _ _ _ run (by
    intro call member
    rw [processes] at member
    simp only [List.mem_cons, List.not_mem_nil, or_false] at member
    rcases member with rfl | rfl
    · exact ⟨_, rfl⟩
    · exact ⟨_, rfl⟩)
  have loser : (referenceAuthService.calls.execute [] twoCalls bothCheckFirst).2.processes[1]? =
      some ⟨referenceUser, .finished (.error (.httpException (userCreateInternalErrorException
        (uniqueViolation "ix_users_email").str)))⟩ := by
    rw [processes]
    rfl
  have conflict := reported.conflict 1 _ loser _ rfl
  exact userCreateInternalErrorException_ne_conflict _ _ (PyException.httpException.inj conflict)

end AuthService

end DemoBase.Backend
