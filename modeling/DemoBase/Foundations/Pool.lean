import DemoBase.Foundations.Machine

/-!
Owns pools of processes that share one state and take turns in any order. A
property of one process is proved from two facts, its own turns keep it and the
turns of others do not disturb it; a property of two processes from the turns of
either one.
-/

set_option autoImplicit false

namespace DemoBase.Foundations

universe u v w

structure Pool (Shared : Type u) (Process : Type v) where
  shared : Shared
  processes : List Process

namespace Pool

/-- Whose turn it is, and what the turn draws from outside. -/
structure Turn (Input : Type w) where
  index : Nat
  input : Input

variable {Shared : Type u} {Process : Type v} {Input : Type w}

/-- One turn; the answer is the process after its turn. -/
def machine (advance : Shared → Process → Input → Shared × Process) :
    Machine (Pool Shared Process) (Turn Input) (Option Process) where
  step pool turn :=
    match pool.processes[turn.index]? with
    | none => (pool, none)
    | some process =>
        let moved := advance pool.shared process turn.input
        (⟨moved.1, pool.processes.set turn.index moved.2⟩, some moved.2)

variable {advance : Shared → Process → Input → Shared × Process}

theorem next_of_some {pool : Pool Shared Process} {turn : Turn Input} {process : Process}
    (scheduled : pool.processes[turn.index]? = some process) :
    (machine advance).next pool turn =
      ⟨(advance pool.shared process turn.input).1,
        pool.processes.set turn.index (advance pool.shared process turn.input).2⟩ := by
  simp only [Machine.next, machine, scheduled]

theorem next_of_none {pool : Pool Shared Process} {turn : Turn Input}
    (scheduled : pool.processes[turn.index]? = none) :
    (machine advance).next pool turn = pool := by
  simp only [Machine.next, machine, scheduled]

/-- The process that took the turn. -/
theorem get_next_self {pool : Pool Shared Process} {turn : Turn Input} {process : Process}
    (scheduled : pool.processes[turn.index]? = some process) :
    ((machine advance).next pool turn).processes[turn.index]? =
      some (advance pool.shared process turn.input).2 := by
  rcases List.getElem?_eq_some_iff.mp scheduled with ⟨inRange, -⟩
  rw [next_of_some scheduled, List.getElem?_set_self inRange]

/-- Every other process. -/
theorem get_next_other {pool : Pool Shared Process} {turn : Turn Input} {index : Nat}
    (other : index ≠ turn.index) :
    ((machine advance).next pool turn).processes[index]? = pool.processes[index]? := by
  cases scheduled : pool.processes[turn.index]? with
  | none => rw [next_of_none scheduled]
  | some process =>
      rw [next_of_some scheduled]
      exact List.getElem?_set_ne other.symm

section Runs

variable {environment : Machine.Environment (Pool Shared Process) (Turn Input) (Option Process)}
  {start state : Pool Shared Process}
  {past : Machine.History (Pool Shared Process) (Turn Input) (Option Process)}

/-- What every turn of a process keeps for the shared state holds of it after
every run. -/
theorem shared_invariant (holds : Shared → Prop) (initially : holds start.shared)
    (kept : ∀ earlier pool turn process, Machine.Run (machine advance) environment start earlier
      pool → environment earlier pool turn → pool.processes[turn.index]? = some process →
      holds pool.shared → holds (advance pool.shared process turn.input).1)
    (run : Machine.Run (machine advance) environment start past state) : holds state.shared := by
  apply run.invariant
  · exact initially
  intro earlier pool turn before allowed held
  cases scheduled : pool.processes[turn.index]? with
  | none =>
      rw [next_of_none scheduled]
      exact held
  | some process =>
      rw [next_of_some scheduled]
      exact kept earlier pool turn process before allowed scheduled held

/-- What its own turns keep and the turns of others leave alone holds of every
process. -/
theorem each_invariant (holds : Shared → Process → Prop)
    (initially : ∀ (index : Nat) process, start.processes[index]? = some process →
      holds start.shared process)
    (own : ∀ earlier pool turn process, Machine.Run (machine advance) environment start earlier
      pool → environment earlier pool turn → pool.processes[turn.index]? = some process →
      holds pool.shared process →
      holds (advance pool.shared process turn.input).1 (advance pool.shared process turn.input).2)
    (others : ∀ earlier pool turn process bystander, Machine.Run (machine advance) environment
      start earlier pool → environment earlier pool turn →
      pool.processes[turn.index]? = some process → holds pool.shared bystander →
      holds (advance pool.shared process turn.input).1 bystander)
    (run : Machine.Run (machine advance) environment start past state) :
    ∀ (index : Nat) process, state.processes[index]? = some process →
      holds state.shared process := by
  apply run.invariant
  · exact initially
  intro earlier pool turn before allowed held index process present
  cases scheduled : pool.processes[turn.index]? with
  | none =>
      rw [next_of_none scheduled] at present ⊢
      exact held index process present
  | some mover =>
      by_cases isMover : index = turn.index
      · rw [isMover, get_next_self scheduled] at present
        obtain rfl := Option.some.inj present
        rw [next_of_some scheduled]
        exact own earlier pool turn mover before allowed scheduled (held _ _ scheduled)
      · rw [get_next_other isMover] at present
        rw [next_of_some scheduled]
        exact others earlier pool turn mover process before allowed scheduled
          (held index process present)

/-- A symmetric relation between two processes that a turn of the first keeps
holds between any two different ones. -/
theorem pair_invariant (apart : Process → Process → Prop)
    (symmetric : ∀ {left right}, apart left right → apart right left)
    (initially : ∀ (first second : Nat) left right, first ≠ second →
      start.processes[first]? = some left → start.processes[second]? = some right →
      apart left right)
    (kept : ∀ earlier pool turn mover (second : Nat) right,
      Machine.Run (machine advance) environment start earlier pool →
      environment earlier pool turn →
      pool.processes[turn.index]? = some mover → second ≠ turn.index →
      pool.processes[second]? = some right → apart mover right →
      apart (advance pool.shared mover turn.input).2 right)
    (run : Machine.Run (machine advance) environment start past state) :
    ∀ (first second : Nat) left right, first ≠ second →
      state.processes[first]? = some left → state.processes[second]? = some right →
      apart left right := by
  apply run.invariant
  · exact initially
  intro earlier pool turn before allowed held first second left right different atFirst atSecond
  cases scheduled : pool.processes[turn.index]? with
  | none =>
      rw [next_of_none scheduled] at atFirst atSecond
      exact held first second left right different atFirst atSecond
  | some mover =>
      by_cases firstMoves : first = turn.index
      · subst firstMoves
        rw [get_next_self scheduled] at atFirst
        rw [get_next_other different.symm] at atSecond
        obtain rfl := Option.some.inj atFirst
        exact kept earlier pool turn mover second right before allowed scheduled different.symm
          atSecond (held _ second mover right different scheduled atSecond)
      · rw [get_next_other firstMoves] at atFirst
        by_cases secondMoves : second = turn.index
        · subst secondMoves
          rw [get_next_self scheduled] at atSecond
          obtain rfl := Option.some.inj atSecond
          exact symmetric (kept earlier pool turn mover first left before allowed scheduled
            different atFirst (held _ first mover left different.symm scheduled atFirst))
        · rw [get_next_other secondMoves] at atSecond
          exact held first second left right different atFirst atSecond

/-- Each process adds at most one row to the shared state: the rows there now are
the first ones and then those of the owners, every process that added one being an
owner exactly once. -/
structure Contributed {Row : Type*} (first : List Row) (rows : Shared → List Row)
    (contribution : Process → Option Row) (owners : List (Nat × Row))
    (pool : Pool Shared Process) : Prop where
  once : (owners.map Prod.fst).Nodup
  appended : rows pool.shared = first ++ owners.map Prod.snd
  owned : ∀ index row, (index, row) ∈ owners ↔
    ∃ process, pool.processes[index]? = some process ∧ contribution process = some row

/-- It is enough that each turn adds nothing or the one row of its process. -/
theorem contributed {Row : Type*} (rows : Shared → List Row)
    (contribution : Process → Option Row)
    (initially : ∀ (index : Nat) process, start.processes[index]? = some process →
      contribution process = none)
    (kept : ∀ earlier pool turn process, Machine.Run (machine advance) environment start earlier
      pool → environment earlier pool turn → pool.processes[turn.index]? = some process →
      (rows (advance pool.shared process turn.input).1 = rows pool.shared ∧
          contribution (advance pool.shared process turn.input).2 = contribution process) ∨
        ∃ row, contribution process = none ∧
          contribution (advance pool.shared process turn.input).2 = some row ∧
          rows (advance pool.shared process turn.input).1 = rows pool.shared ++ [row])
    (run : Machine.Run (machine advance) environment start past state) :
    ∃ owners, Contributed (rows start.shared) rows contribution owners state := by
  apply run.invariant
  · refine ⟨[], List.nodup_nil, by simp, ?_⟩
    intro index row
    refine iff_of_false List.not_mem_nil ?_
    rintro ⟨process, present, isSome⟩
    rw [initially index process present] at isSome
    cases isSome
  intro earlier pool turn before allowed ⟨owners, held⟩
  cases scheduled : pool.processes[turn.index]? with
  | none =>
      rw [next_of_none scheduled]
      exact ⟨owners, held⟩
  | some mover =>
      have shared : ((machine advance).next pool turn).shared =
          (advance pool.shared mover turn.input).1 := by
        rw [next_of_some scheduled]
      rcases kept earlier pool turn mover before allowed scheduled with ⟨sameRows, same⟩ |
        ⟨row, hadNone, has, grew⟩
      · refine ⟨owners, held.once, ?_, ?_⟩
        · rw [shared, sameRows]
          exact held.appended
        · intro index row
          rw [held.owned]
          by_cases isMover : index = turn.index
          · rw [isMover, get_next_self scheduled, scheduled]
            simp only [Option.some.injEq, exists_eq_left', same]
          · rw [get_next_other isMover]
      · have notOwner : ∀ other, (turn.index, other) ∉ owners := by
          intro other member
          rcases (held.owned _ other).mp member with ⟨process, present, isSome⟩
          obtain rfl := Option.some.inj (scheduled.symm.trans present)
          rw [hadNone] at isSome
          cases isSome
        refine ⟨owners ++ [(turn.index, row)], ?_, ?_, ?_⟩
        · rw [List.map_append, List.nodup_append]
          refine ⟨held.once, by simp, ?_⟩
          intro left leftMember right rightMember same
          rcases List.mem_map.mp leftMember with ⟨⟨index, other⟩, member, rfl⟩
          rw [List.map_singleton, List.mem_singleton] at rightMember
          obtain rfl : index = turn.index := same.trans rightMember
          exact notOwner other member
        · rw [shared, grew, held.appended, List.map_append, List.append_assoc]
          rfl
        · intro index other
          rw [List.mem_append, List.mem_singleton, Prod.mk.injEq]
          by_cases isMover : index = turn.index
          · subst isMover
            rw [get_next_self scheduled]
            simp only [notOwner other, false_or, true_and, Option.some.injEq, exists_eq_left', has]
            exact eq_comm
          · rw [get_next_other isMover, held.owned]
            simp only [isMover, false_and, or_false]

/-- A pool whose processes are, turn by turn, those of another pool runs as the
other one does. -/
theorem run_map {Process' : Type*} {Input' : Type*}
    {advance' : Shared → Process' → Input' → Shared × Process'}
    (process' : Process → Process') (input' : Input → Input')
    (follows : ∀ earlier pool turn process, Machine.Run (machine advance) environment start
      earlier pool → environment earlier pool turn → pool.processes[turn.index]? = some process →
      advance' pool.shared (process' process) (input' turn.input) =
        ((advance pool.shared process turn.input).1,
          process' (advance pool.shared process turn.input).2))
    (run : Machine.Run (machine advance) environment start past state) :
    ∃ past', Machine.Run (machine advance') Machine.unrestricted
      ⟨start.shared, start.processes.map process'⟩ past'
      ⟨state.shared, state.processes.map process'⟩ := by
  induction run with
  | start => exact ⟨[], .start⟩
  | step turn earlier allowed inductionHypothesis =>
      rename_i before pool
      rcases inductionHypothesis with ⟨past', run'⟩
      have taken := run'.step ⟨turn.index, input' turn.input⟩ trivial
      have same : (machine advance').next ⟨pool.shared, pool.processes.map process'⟩
            ⟨turn.index, input' turn.input⟩ =
          ⟨((machine advance).next pool turn).shared,
            ((machine advance).next pool turn).processes.map process'⟩ := by
        cases scheduled : pool.processes[turn.index]? with
        | none => rw [next_of_none scheduled, next_of_none (by simp [scheduled])]
        | some process =>
            have scheduled' : (pool.processes.map process')[turn.index]? =
                some (process' process) := by
              rw [List.getElem?_map, scheduled]
              rfl
            rw [next_of_some scheduled, next_of_some scheduled',
              follows before pool turn process earlier allowed scheduled, List.map_set]
      rw [same] at taken
      exact ⟨_, taken⟩

/-- What every turn keeps of its process is in every run what it was at the start. -/
theorem labels_kept {Label : Type*} (label : Process → Label)
    (kept : ∀ shared process input, label (advance shared process input).2 = label process)
    (run : Machine.Run (machine advance) environment start past state) :
    state.processes.map label = start.processes.map label := by
  apply run.invariant
  · rfl
  intro earlier pool turn _ _ held
  rw [← held]
  cases scheduled : pool.processes[turn.index]? with
  | none => rw [next_of_none scheduled]
  | some process =>
      apply List.ext_getElem?
      intro index
      rw [List.getElem?_map, List.getElem?_map]
      by_cases isMover : index = turn.index
      · rw [isMover, get_next_self scheduled, scheduled, Option.map_some, Option.map_some, kept]
      · rw [get_next_other isMover]

/-- A process that every turn of its own leaves as it is stays so. -/
theorem settled_stays {index : Nat} {process : Process}
    (settled : ∀ shared input, (advance shared process input).2 = process)
    (run : Machine.Run (machine advance) environment start past state)
    {answered : Machine.Entry (Pool Shared Process) (Turn Input) (Option Process)}
    (member : answered ∈ past)
    (present : ((machine advance).next answered.before answered.input).processes[index]? =
      some process) :
    state.processes[index]? = some process := by
  apply run.stable_of_mem _ member present
  intro earlier pool turn allowed before
  by_cases isMover : index = turn.index
  · subst isMover
    rw [get_next_self before, settled pool.shared turn.input]
  · rw [get_next_other isMover]
    exact before

end Runs

end Pool

end DemoBase.Foundations
