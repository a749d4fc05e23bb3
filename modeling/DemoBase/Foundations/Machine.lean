import Mathlib.Data.List.Basic

/-!
Owns runs of a deterministic machine that answers one input at a time. A run
remembers every answered input with the state it was answered in, newest
first, so a statement about a run can speak about "an earlier call" and about
the state that call found.

An `Environment` restricts which inputs a run may take next. It is where an
assumption about the world outside the machine is stated once for a whole run.
-/

set_option autoImplicit false

namespace DemoBase.Foundations

universe u v w

/-- A machine that answers an input and moves to its next state. -/
structure Machine (State : Type u) (Input : Type v) (Output : Type w) where
  step : State → Input → State × Output

namespace Machine

/-- One answered input, with the state it was answered in. -/
structure Entry (State : Type u) (Input : Type v) (Output : Type w) where
  before : State
  input : Input
  output : Output

/-- The answered inputs of a run, newest first. -/
abbrev History (State : Type u) (Input : Type v) (Output : Type w) :=
  List (Entry State Input Output)

/-- Which input may come next, given the past and the present state. -/
abbrev Environment (State : Type u) (Input : Type v) (Output : Type w) :=
  History State Input Output → State → Input → Prop

variable {State : Type u} {Input : Type v} {Output : Type w}

/-- The state after one input. -/
def next (machine : Machine State Input Output) (state : State) (input : Input) : State :=
  (machine.step state input).1

/-- The answer to one input. -/
def answer (machine : Machine State Input Output) (state : State) (input : Input) : Output :=
  (machine.step state input).2

/-- The entry one input leaves in the history. -/
def entry (machine : Machine State Input Output) (state : State) (input : Input) :
    Entry State Input Output :=
  ⟨state, input, machine.answer state input⟩

/-- The environment that allows every input. -/
def unrestricted : Environment State Input Output := fun _ _ _ => True

/-- Runs of `machine` from `start` whose inputs the environment allows. -/
inductive Run (machine : Machine State Input Output)
    (environment : Environment State Input Output) (start : State) :
    History State Input Output → State → Prop
  | start : Run machine environment start [] start
  | step {past : History State Input Output} {state : State} (input : Input)
      (earlier : Run machine environment start past state)
      (allowed : environment past state input) :
      Run machine environment start (machine.entry state input :: past)
        (machine.next state input)

/-- `holds` at every moment of a run: of each state with the past it had then. -/
def Throughout (holds : History State Input Output → State → Prop) :
    History State Input Output → State → Prop
  | [], state => holds [] state
  | answered :: older, state =>
      holds (answered :: older) state ∧ Throughout holds older answered.before

namespace Run

variable {machine : Machine State Input Output}
  {environment : Environment State Input Output} {start : State}

/-- The induction of every safety proof: what holds at the start and is kept by
each allowed step holds at the end of every run. -/
theorem invariant {holds : History State Input Output → State → Prop}
    (initially : holds [] start)
    (kept : ∀ past state input, Run machine environment start past state →
      environment past state input → holds past state →
        holds (machine.entry state input :: past) (machine.next state input))
    {past : History State Input Output} {state : State}
    (run : Run machine environment start past state) : holds past state := by
  induction run with
  | start => exact initially
  | step input earlier allowed inductionHypothesis =>
      exact kept _ _ input earlier allowed inductionHypothesis

/-- A run in a demanding environment is a run in a permissive one. -/
theorem weaken {permissive : Environment State Input Output}
    (weaker : ∀ past state input, environment past state input → permissive past state input)
    {past : History State Input Output} {state : State}
    (run : Run machine environment start past state) :
    Run machine permissive start past state := by
  induction run with
  | start => exact .start
  | step input _ allowed inductionHypothesis =>
      exact .step input inductionHypothesis (weaker _ _ _ allowed)

/-- What every answered input of a run satisfied may be demanded of its inputs. -/
theorem strengthen {past : History State Input Output} {state : State}
    (run : Run machine environment start past state) (demanded : State → Input → Prop)
    (met : ∀ answered ∈ past, demanded answered.before answered.input) :
    Run machine (fun past state input => environment past state input ∧ demanded state input)
      start past state := by
  induction run with
  | start => exact .start
  | step input _ allowed inductionHypothesis =>
      have metEarlier := inductionHypothesis fun answered older =>
        met answered (List.mem_cons_of_mem _ older)
      exact .step input metEarlier ⟨allowed, met _ List.mem_cons_self⟩

/-- Below each of its entries a run is a run, and the machine produced the entry. -/
theorem of_split {past : History State Input Output} {state : State}
    (run : Run machine environment start past state)
    {newer older : History State Input Output} {answered : Entry State Input Output}
    (split : past = newer ++ answered :: older) :
    Run machine environment start older answered.before ∧
      environment older answered.before answered.input ∧
      answered = machine.entry answered.before answered.input := by
  induction run generalizing newer with
  | start => simp at split
  | step input earlier allowed inductionHypothesis =>
      cases newer with
      | nil =>
          rcases List.cons.inj split with ⟨rfl, rfl⟩
          exact ⟨earlier, allowed, rfl⟩
      | cons last between => exact inductionHypothesis (List.cons.inj split).2

/-- Each entry was produced by the machine, at the end of an earlier run. -/
theorem of_mem {past : History State Input Output} {state : State}
    (run : Run machine environment start past state)
    {answered : Entry State Input Output} (member : answered ∈ past) :
    ∃ earlier, Run machine environment start earlier answered.before ∧
      environment earlier answered.before answered.input ∧
      answered = machine.entry answered.before answered.input := by
  rcases List.append_of_mem member with ⟨newer, older, split⟩
  exact ⟨older, run.of_split split⟩

/-- What every step keeps holds at the end of a run once an answered input
established it. -/
theorem stable_of_mem {holds : State → Prop}
    (kept : ∀ past state input, environment past state input → holds state →
      holds (machine.next state input))
    {past : History State Input Output} {state : State}
    (run : Run machine environment start past state)
    {answered : Entry State Input Output} (member : answered ∈ past)
    (established : holds (machine.next answered.before answered.input)) : holds state := by
  induction run with
  | start => simp at member
  | step input _ allowed inductionHypothesis =>
      rcases List.mem_cons.mp member with rfl | older
      · exact established
      · exact kept _ _ input allowed (inductionHypothesis older)

/-- What an answered input established holds at the end of a run when every later
input kept it. -/
theorem kept_since (holds : State → Prop) {past : History State Input Output} {state : State}
    (run : Run machine environment start past state)
    {newer older : History State Input Output} {answered : Entry State Input Output}
    (split : past = newer ++ answered :: older)
    (established : holds (machine.next answered.before answered.input))
    (kept : ∀ later ∈ newer, holds later.before → holds (machine.next later.before later.input)) :
    holds state := by
  induction run generalizing newer with
  | start => simp at split
  | step input _ _ inductionHypothesis =>
      cases newer with
      | nil =>
          obtain rfl := (List.cons.inj split).1
          exact established
      | cons last between =>
          rcases List.cons.inj split with ⟨rfl, splitEarlier⟩
          have before := inductionHypothesis splitEarlier fun later member =>
            kept later (List.mem_cons_of_mem _ member)
          exact kept _ List.mem_cons_self before

/-- What holds at the start holds throughout a run exactly when every input met the
condition under which one step keeps it. -/
theorem throughout_iff {holds : History State Input Output → State → Prop}
    {condition : State → Input → Prop} (initially : holds [] start)
    (keeps : ∀ past state input, Run machine environment start past state →
      environment past state input → holds past state →
        (holds (machine.entry state input :: past) (machine.next state input) ↔
          condition state input))
    {past : History State Input Output} {state : State}
    (run : Run machine environment start past state) :
    Throughout holds past state ↔
      ∀ answered ∈ past, condition answered.before answered.input := by
  have now : ∀ {past : History State Input Output} {state : State},
      Throughout holds past state → holds past state := by
    intro past state throughout
    cases past with
    | nil => exact throughout
    | cons answered older => exact throughout.1
  induction run with
  | start => exact iff_of_true initially (by simp)
  | step input earlier allowed inductionHypothesis =>
      have kept := keeps _ _ input earlier allowed
      rw [List.forall_mem_cons]
      constructor
      · intro throughout
        exact ⟨(kept (now throughout.2)).mp throughout.1, inductionHypothesis.mp throughout.2⟩
      · intro met
        have before := inductionHypothesis.mpr met.2
        exact ⟨(kept (now before)).mpr met.1, before⟩

end Run

/-- The run over a given list of inputs. -/
def execute (machine : Machine State Input Output) (past : History State Input Output)
    (state : State) : List Input → History State Input Output × State
  | [] => (past, state)
  | input :: rest =>
      machine.execute (machine.entry state input :: past) (machine.next state input) rest

/-- The environment allows each input of the list when its turn comes. -/
def Allows (machine : Machine State Input Output)
    (environment : Environment State Input Output) (past : History State Input Output)
    (state : State) : List Input → Prop
  | [] => True
  | input :: rest =>
      environment past state input ∧
        machine.Allows environment (machine.entry state input :: past)
          (machine.next state input) rest

theorem allows_unrestricted (machine : Machine State Input Output)
    {past : History State Input Output} {state : State} (inputs : List Input) :
    machine.Allows unrestricted past state inputs := by
  induction inputs generalizing past state with
  | nil => trivial
  | cons input rest inductionHypothesis => exact ⟨trivial, inductionHypothesis⟩

theorem execute_state (machine : Machine State Input Output) {past : History State Input Output}
    {state : State} (inputs : List Input) :
    (machine.execute past state inputs).2 = inputs.foldl machine.next state := by
  induction inputs generalizing past state with
  | nil => rfl
  | cons input rest inductionHypothesis => exact inductionHypothesis

theorem run_execute (machine : Machine State Input Output)
    {environment : Environment State Input Output} {start state : State}
    {past : History State Input Output} {inputs : List Input}
    (run : Run machine environment start past state)
    (allows : machine.Allows environment past state inputs) :
    Run machine environment start (machine.execute past state inputs).1
      (machine.execute past state inputs).2 := by
  induction inputs generalizing past state with
  | nil => exact run
  | cons input rest inductionHypothesis =>
      exact inductionHypothesis (run.step input allows.1) allows.2

theorem run_unrestricted (machine : Machine State Input Output) (start : State)
    (inputs : List Input) :
    Run machine unrestricted start (machine.execute [] start inputs).1
      (machine.execute [] start inputs).2 :=
  machine.run_execute .start (machine.allows_unrestricted inputs)

/-! ### Runs of one schedule -/

/-- Histories whose inputs are alike, one by one. -/
def SameSchedule (alike : Input → Input → Prop) :
    History State Input Output → History State Input Output → Prop :=
  List.Forall₂ fun left right => alike left.input right.input

section Schedules

variable {machine : Machine State Input Output} {start state reached : State}
  {environment permissive : Environment State Input Output}
  {alike : Input → Input → Prop} {past other : History State Input Output}

theorem SameSchedule.refl (reflexive : ∀ input, alike input input)
    (past : History State Input Output) : SameSchedule alike past past := by
  induction past with
  | nil => exact .nil
  | cons answered older inductionHypothesis =>
      exact .cons (reflexive answered.input) inductionHypothesis

/-- Runs of one schedule go through related states when alike inputs keep them related. -/
theorem Run.lockstep {related : State → State → Prop} (initially : related start start)
    (kept : ∀ left right one another, related left right → alike one another →
      related (machine.next left one) (machine.next right another))
    (run : Run machine environment start past state)
    (again : Run machine permissive start other reached)
    (schedule : SameSchedule alike past other) :
    (∀ right ∈ other, ∃ left ∈ past, alike left.input right.input ∧
        related left.before right.before) ∧ related state reached := by
  induction run generalizing other reached with
  | start =>
      cases schedule
      cases again
      exact ⟨nofun, initially⟩
  | step input earlier allowed inductionHypothesis =>
      cases schedule with
      | cons isAlike rest =>
          cases again with
          | step another againEarlier againAllowed =>
              obtain ⟨moments, before⟩ := inductionHypothesis againEarlier rest
              refine ⟨?_, kept _ _ _ _ before isAlike⟩
              intro right member
              rcases List.mem_cons.mp member with rfl | older
              · exact ⟨_, List.mem_cons_self, isAlike, before⟩
              · rcases moments right older with ⟨left, leftMember, agree⟩
                exact ⟨left, List.mem_cons_of_mem _ leftMember, agree⟩

/-- At any of its moments a run may take an alike input and follow its schedule on. -/
theorem Run.vary (reflexive : ∀ input, alike input input)
    (run : Run machine unrestricted start past state)
    {answered : Entry State Input Output} (member : answered ∈ past) {input : Input}
    (isAlike : alike answered.input input) :
    ∃ other reached, Run machine unrestricted start other reached ∧
      SameSchedule alike past other ∧ machine.entry answered.before input ∈ other := by
  induction run with
  | start => cases member
  | step last earlier allowed inductionHypothesis =>
      rcases List.mem_cons.mp member with rfl | older
      · exact ⟨_, _, .step input earlier trivial, .cons isAlike (SameSchedule.refl reflexive _),
          List.mem_cons_self⟩
      · obtain ⟨other, reached, again, schedule, varied⟩ := inductionHypothesis older
        exact ⟨_, _, .step last again trivial, .cons (reflexive last) schedule,
          List.mem_cons_of_mem _ varied⟩

end Schedules

end Machine

end DemoBase.Foundations
