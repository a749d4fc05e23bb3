import Mathlib.Data.List.Basic

/-!
Owns the purpose of a view over requests of which only the newest counts. What it
should show is a function of the log of events: requests issued, a reset, answers
in any order, and the moments at which the view looks.

A log is newest first and a request is named by its number.
-/

set_option autoImplicit false

namespace DemoBase.Foundations.NewestRequest

universe u v

/-- What happens to the requests and to the view. -/
inductive Event (Error : Type u) (Value : Type v) where
  | issue
  | reset
  | answer (id : Nat) (response : Except Error Value)
  | look

variable {Error : Type u} {Value : Type v}

/-- How many requests were issued. -/
def issued : List (Event Error Value) → Nat
  | [] => 0
  | .issue :: older => issued older + 1
  | _ :: older => issued older

/-- The newest request, unless a reset came after it. -/
def newest : List (Event Error Value) → Option Nat
  | [] => none
  | .issue :: older => some (issued older)
  | .reset :: _ => none
  | _ :: older => newest older

/-- The first answer to a request after it was issued. -/
def responseTo (id : Nat) : List (Event Error Value) → Option (Except Error Value)
  | [] => none
  | .answer other response :: older =>
      match responseTo id older with
      | some first => some first
      | none => if other = id ∧ id < issued older then some response else none
  | _ :: older => responseTo id older

/-- What a view shows: the value it shows until the next reset, the last one it
saw, whether it waits, and the error of the request it last asked. -/
structure Shown (Error : Type u) (Value : Type v) where
  value : Option Value
  latest : Option Value
  waiting : Bool
  error : Option Error

namespace Shown

def initial : Shown Error Value := ⟨none, none, false, none⟩

/-- The view looks at the newest request. -/
def look (self : Shown Error Value) : Option (Except Error Value) → Shown Error Value
  | none => { self with waiting := true }
  | some (.ok value) => ⟨some value, some value, false, none⟩
  | some (.error error) => { self with waiting := false, error := some error }

end Shown

/-- What the view shows after a log. -/
def shown : List (Event Error Value) → Shown Error Value
  | [] => .initial
  | .issue :: older => { shown older with waiting := true, error := none }
  | .reset :: older => { shown older with value := none, waiting := false, error := none }
  | .answer _ _ :: older => shown older
  | .look :: older =>
      match newest older with
      | none => shown older
      | some id => (shown older).look (responseTo id older)

/-- At the end of the log the view looks at an answered request that is newest. -/
def Sees (id : Nat) (response : Except Error Value) (log : List (Event Error Value)) : Prop :=
  ∃ older, log = .look :: older ∧ newest older = some id ∧ responseTo id older = some response

/-- The last value the view saw since the last reset. -/
def LastSeen (value : Value) (log : List (Event Error Value)) : Prop :=
  ∃ newer older id, log = newer ++ older ∧ Sees id (.ok value) older ∧
    ∀ later event earlier, newer = later ++ event :: earlier →
      event ≠ .reset ∧ ∀ other another, ¬ Sees other (.ok another) (event :: earlier ++ older)

/-- A later request or a reset came before the view saw an answer to this one. -/
def Superseded (id : Nat) (log : List (Event Error Value)) : Prop :=
  ∃ newer event older, log = newer ++ event :: older ∧ (event = .issue ∨ event = .reset) ∧
    id < issued older ∧
    ∀ between earlier response, older = between ++ earlier → ¬ Sees id response earlier

/-- The log without the answers to a request. -/
def withoutAnswers (id : Nat) (log : List (Event Error Value)) : List (Event Error Value) :=
  log.filter fun event =>
    match event with
    | .answer other _ => other != id
    | _ => true

variable {log : List (Event Error Value)} {id : Nat}

theorem newest_lt (isNewest : newest log = some id) : id < issued log := by
  induction log with
  | nil => cases isNewest
  | cons event older inductionHypothesis =>
      cases event with
      | issue =>
          obtain rfl := Option.some.inj isNewest
          exact Nat.lt_succ_self _
      | reset => cases isNewest
      | answer other response => exact inductionHypothesis isNewest
      | look => exact inductionHypothesis isNewest

theorem issued_append_le (newer older : List (Event Error Value)) :
    issued older ≤ issued (newer ++ older) := by
  induction newer with
  | nil => exact Nat.le_refl _
  | cons event between inductionHypothesis =>
      cases event with
      | issue => exact Nat.le_succ_of_le inductionHypothesis
      | reset => exact inductionHypothesis
      | answer other response => exact inductionHypothesis
      | look => exact inductionHypothesis

/-- A request that is not the newest one never becomes it again. -/
theorem newest_append_ne {older : List (Event Error Value)} (issuedBefore : id < issued older)
    (notNewest : newest older ≠ some id) (newer : List (Event Error Value)) :
    newest (newer ++ older) ≠ some id := by
  induction newer with
  | nil => exact notNewest
  | cons event between inductionHypothesis =>
      cases event with
      | issue =>
          have grows := issued_append_le between older
          intro isNewest
          have same : issued (between ++ older) = id := Option.some.inj isNewest
          omega
      | reset =>
          intro isNewest
          cases isNewest
      | answer other response => exact inductionHypothesis
      | look => exact inductionHypothesis

theorem Shown.look_look (self : Shown Error Value) (response : Option (Except Error Value)) :
    (self.look response).look response = self.look response := by
  cases response with
  | none => rfl
  | some response =>
      cases response with
      | ok value => rfl
      | error error => rfl

theorem issued_of_responseTo {response : Except Error Value}
    (answered : responseTo id log = some response) : id < issued log := by
  induction log with
  | nil => cases answered
  | cons event older inductionHypothesis =>
      cases event with
      | issue => exact Nat.lt_succ_of_lt (inductionHypothesis answered)
      | reset => exact inductionHypothesis answered
      | look => exact inductionHypothesis answered
      | answer other another =>
          simp only [responseTo] at answered
          cases before : responseTo id older with
          | some first =>
              simp only [before] at answered
              exact inductionHypothesis (before.trans answered)
          | none =>
              by_cases applies : other = id ∧ id < issued older
              · exact applies.2
              · simp only [before, if_neg applies] at answered
                cases answered

theorem responseTo_answer_self (unanswered : responseTo id log = none)
    (issuedBefore : id < issued log) (response : Except Error Value) :
    responseTo id (.answer id response :: log) = some response := by
  simp only [responseTo, unanswered, true_and, if_pos issuedBefore]

theorem responseTo_answer_elsewhere {other : Nat} (elsewhere : ¬ (other = id ∧ id < issued log))
    (response : Except Error Value) :
    responseTo id (.answer other response :: log) = responseTo id log := by
  simp only [responseTo, if_neg elsewhere]
  cases responseTo id log with
  | none => rfl
  | some first => rfl

theorem responseTo_answer_of_ne {other : Nat} (isOther : other ≠ id)
    (response : Except Error Value) :
    responseTo other (.answer id response :: log) = responseTo other log :=
  responseTo_answer_elsewhere (fun both => isOther both.1.symm) response

/-- A second answer, and one to a request that was not issued, is not a response. -/
theorem responseTo_answer_ignored {first : Except Error Value}
    (ignored : responseTo id log = some first ∨ issued log ≤ id) (other : Nat)
    (response : Except Error Value) :
    responseTo other (.answer id response :: log) = responseTo other log := by
  by_cases same : other = id
  · obtain rfl := same
    rcases ignored with answered | unissued
    · simp only [responseTo, answered]
    · apply responseTo_answer_elsewhere
      omega
  · exact responseTo_answer_of_ne same response

/-- Without a newest request the view neither waits nor shows an error. -/
theorem shown_of_newest_none (reset : newest log = none) :
    (shown log).waiting = false ∧ (shown log).error = none := by
  induction log with
  | nil => exact ⟨rfl, rfl⟩
  | cons event older inductionHypothesis =>
      cases event with
      | issue => cases reset
      | reset => exact ⟨rfl, rfl⟩
      | answer other response => exact inductionHypothesis reset
      | look =>
          have resetBefore : newest older = none := reset
          simp only [shown, resetBefore]
          exact inductionHypothesis resetBefore

/-- An error that is shown is the one the newest request was answered with. -/
theorem shown_error {error : Error} (isShown : (shown log).error = some error) :
    ∃ id, newest log = some id ∧ responseTo id log = some (.error error) := by
  induction log with
  | nil => cases isShown
  | cons event older inductionHypothesis =>
      cases event with
      | issue => cases isShown
      | reset => cases isShown
      | answer other response =>
          rcases inductionHypothesis isShown with ⟨id, isNewest, failed⟩
          refine ⟨id, isNewest, ?_⟩
          simp only [responseTo, failed]
      | look =>
          cases isNewest : newest older with
          | none =>
              have nothing := (shown_of_newest_none isNewest).2
              simp only [shown, isNewest, nothing] at isShown
              cases isShown
          | some id =>
              refine ⟨id, isNewest, ?_⟩
              simp only [shown, isNewest] at isShown
              show responseTo id older = _
              cases answered : responseTo id older with
              | none =>
                  rw [answered] at isShown
                  rcases inductionHypothesis isShown with ⟨other, otherNewest, failed⟩
                  rw [isNewest] at otherNewest
                  obtain rfl := Option.some.inj otherNewest
                  rw [answered] at failed
                  exact failed
              | some response =>
                  rw [answered] at isShown
                  cases response with
                  | ok value => cases isShown
                  | error other =>
                      obtain rfl := Option.some.inj isShown
                      rfl

/-- The view waits right after it looked exactly when the newest request is
unanswered. -/
theorem shown_look_waiting :
    (shown (.look :: log)).waiting = true ↔
      ∃ id, newest log = some id ∧ responseTo id log = none := by
  cases isNewest : newest log with
  | none => simp [shown, isNewest, (shown_of_newest_none isNewest).1]
  | some id =>
      simp only [shown, isNewest, Option.some.injEq, exists_eq_left']
      cases responseTo id log with
      | none => simp [Shown.look]
      | some response =>
          cases response with
          | ok value => simp [Shown.look]
          | error error => simp [Shown.look]

/-- The error right after the view looked is that of the newest request. -/
theorem shown_look_error (error : Error) :
    (shown (.look :: log)).error = some error ↔
      ∃ id, newest log = some id ∧ responseTo id log = some (.error error) := by
  constructor
  · intro isShown
    have failed : ∃ id, newest (.look :: log) = some id ∧
        responseTo id (.look :: log) = some (.error error) := shown_error isShown
    exact failed
  · rintro ⟨id, isNewest, failed⟩
    simp only [shown, isNewest, failed, Shown.look]

/-- A value that was last seen before an event is last seen after it, unless the
event is a reset or shows another one. -/
theorem LastSeen.cons {value : Value} {event : Event Error Value} (before : LastSeen value log)
    (noReset : event ≠ .reset)
    (nothing : ∀ other another, ¬ Sees other (.ok another) (event :: log)) :
    LastSeen value (event :: log) := by
  obtain ⟨newer, older, id, rfl, sees, between⟩ := before
  refine ⟨event :: newer, older, id, rfl, sees, ?_⟩
  intro later other earlier split
  cases later with
  | nil =>
      obtain ⟨rfl, rfl⟩ := List.cons.inj split
      exact ⟨noReset, nothing⟩
  | cons first rest => exact between rest other earlier (List.cons.inj split).2

theorem LastSeen.of_cons {value : Value} {event : Event Error Value}
    (after : LastSeen value (event :: log))
    (nothing : ∀ other another, ¬ Sees other (.ok another) (event :: log)) :
    event ≠ .reset ∧ LastSeen value log := by
  obtain ⟨newer, older, id, split, sees, between⟩ := after
  cases newer with
  | nil =>
      obtain rfl : event :: log = older := split
      exact absurd sees (nothing id value)
  | cons first rest =>
      obtain ⟨rfl, rfl⟩ := List.cons.inj split
      refine ⟨(between [] event rest rfl).1, rest, older, id, rfl, sees, ?_⟩
      intro later other earlier split
      exact between (event :: later) other earlier (congrArg (List.cons event) split)

theorem lastSeen_cons_iff {value : Value} {event : Event Error Value} (noReset : event ≠ .reset)
    (nothing : ∀ other another, ¬ Sees other (.ok another) (event :: log)) :
    LastSeen value (event :: log) ↔ LastSeen value log :=
  ⟨fun after => (after.of_cons nothing).2, fun before => before.cons noReset nothing⟩

theorem LastSeen.of_sees {value another : Value} (sees : Sees id (.ok another) log)
    (last : LastSeen value log) : value = another := by
  obtain ⟨newer, older, other, rfl, otherSees, between⟩ := last
  cases newer with
  | nil =>
      obtain ⟨first, isLook, isNewest, answered⟩ := sees
      obtain ⟨second, otherLook, otherNewest, otherAnswered⟩ := otherSees
      obtain rfl := (List.cons.inj (isLook.symm.trans otherLook)).2
      obtain rfl := Option.some.inj (isNewest.symm.trans otherNewest)
      have same := answered.symm.trans otherAnswered
      cases same
      rfl
  | cons event earlier => exact absurd sees ((between [] event earlier rfl).2 id another)

theorem shown_value_of_sees {value : Value} (sees : Sees id (.ok value) log) :
    (shown log).value = some value := by
  obtain ⟨older, rfl, isNewest, answered⟩ := sees
  simp only [shown, isNewest, answered, Shown.look]

theorem shown_cons_value {event : Event Error Value} (noReset : event ≠ .reset)
    (nothing : ∀ other another, ¬ Sees other (.ok another) (event :: log)) :
    (shown (event :: log)).value = (shown log).value := by
  cases event with
  | issue => rfl
  | reset => exact absurd rfl noReset
  | answer other response => rfl
  | look =>
      cases isNewest : newest log with
      | none => simp only [shown, isNewest]
      | some id =>
          simp only [shown, isNewest]
          cases answered : responseTo id log with
          | none => rfl
          | some response =>
              cases response with
              | error error => rfl
              | ok value => exact absurd ⟨log, rfl, isNewest, answered⟩ (nothing id value)

/-- The view shows exactly the last value it saw since the last reset. -/
theorem shown_value_iff (value : Value) : (shown log).value = some value ↔ LastSeen value log := by
  induction log with
  | nil =>
      refine iff_of_false (by simp [shown, Shown.initial]) ?_
      rintro ⟨newer, older, id, split, ⟨before, rfl, -⟩, -⟩
      simp at split
  | cons event older inductionHypothesis =>
      by_cases saw : ∃ id seen, Sees id (.ok seen) (event :: older)
      · rcases saw with ⟨id, seen, sees⟩
        rw [shown_value_of_sees sees]
        constructor
        · intro isShown
          obtain rfl := Option.some.inj isShown
          refine ⟨[], event :: older, id, rfl, sees, ?_⟩
          intro later other earlier split
          simp at split
        · intro last
          rw [last.of_sees sees]
      · have nothing : ∀ other another, ¬ Sees other (.ok another) (event :: older) :=
          fun other another sees => saw ⟨other, another, sees⟩
        by_cases isReset : event = .reset
        · obtain rfl := isReset
          refine iff_of_false (by simp [shown]) ?_
          intro last
          exact (last.of_cons nothing).1 rfl
        · rw [lastSeen_cons_iff isReset nothing, shown_cons_value isReset nothing]
          exact inductionHypothesis

/-! ### A superseded request -/

section Superseded

/-- The view never saw an answer to this request. -/
def NeverSeen (id : Nat) (log : List (Event Error Value)) : Prop :=
  ∀ newer older response, log = newer ++ older → ¬ Sees id response older

theorem NeverSeen.of_cons {event : Event Error Value} (never : NeverSeen id (event :: log)) :
    NeverSeen id log := by
  intro newer older response split
  exact never (event :: newer) older response (congrArg (List.cons event) split)

/-- A request that was superseded before the view saw an answer to it never is seen. -/
theorem Superseded.neverSeen (superseded : Superseded id log) : NeverSeen id log := by
  obtain ⟨newer, event, older, rfl, supersedes, issuedBefore, unseen⟩ := superseded
  have notNewest : newest (event :: older) ≠ some id ∧ id < issued (event :: older) := by
    rcases supersedes with rfl | rfl
    · refine ⟨?_, Nat.lt_succ_of_lt issuedBefore⟩
      intro isNewest
      have same : issued older = id := Option.some.inj isNewest
      omega
    · refine ⟨?_, issuedBefore⟩
      intro isNewest
      cases isNewest
  induction newer with
  | nil =>
      intro between earlier response split sees
      cases between with
      | nil =>
          obtain rfl : event :: older = earlier := split
          obtain ⟨before, isLook, -⟩ := sees
          obtain rfl := (List.cons.inj isLook).1
          rcases supersedes with impossible | impossible
          · cases impossible
          · cases impossible
      | cons first rest => exact unseen rest earlier response (List.cons.inj split).2 sees
  | cons last between inductionHypothesis =>
      intro newer earlier response split sees
      cases newer with
      | nil =>
          obtain rfl : last :: (between ++ event :: older) = earlier := split
          obtain ⟨before, isLook, isNewest, -⟩ := sees
          obtain rfl := (List.cons.inj isLook).2
          exact newest_append_ne notNewest.2 notNewest.1 between isNewest
      | cons first rest =>
          exact inductionHypothesis rest earlier response (List.cons.inj split).2 sees

@[simp] theorem withoutAnswers_issue :
    withoutAnswers id (.issue :: log) = .issue :: withoutAnswers id log := rfl

@[simp] theorem withoutAnswers_reset :
    withoutAnswers id (.reset :: log) = .reset :: withoutAnswers id log := rfl

@[simp] theorem withoutAnswers_look :
    withoutAnswers id (.look :: log) = .look :: withoutAnswers id log := rfl

theorem withoutAnswers_answer_self (response : Except Error Value) :
    withoutAnswers id (.answer id response :: log) = withoutAnswers id log := by
  simp [withoutAnswers]

theorem withoutAnswers_answer_of_ne {other : Nat} (isOther : other ≠ id)
    (response : Except Error Value) :
    withoutAnswers id (.answer other response :: log) =
      .answer other response :: withoutAnswers id log := by
  simp [withoutAnswers, isOther]

theorem issued_withoutAnswers (id : Nat) (log : List (Event Error Value)) :
    issued (withoutAnswers id log) = issued log := by
  induction log with
  | nil => rfl
  | cons event older inductionHypothesis =>
      cases event with
      | issue => exact congrArg Nat.succ inductionHypothesis
      | reset => exact inductionHypothesis
      | look => exact inductionHypothesis
      | answer other response =>
          by_cases same : other = id
          · rw [same, withoutAnswers_answer_self]
            exact inductionHypothesis
          · rw [withoutAnswers_answer_of_ne same]
            exact inductionHypothesis

theorem newest_withoutAnswers (id : Nat) (log : List (Event Error Value)) :
    newest (withoutAnswers id log) = newest log := by
  induction log with
  | nil => rfl
  | cons event older inductionHypothesis =>
      cases event with
      | issue => exact congrArg some (issued_withoutAnswers id older)
      | reset => rfl
      | look => exact inductionHypothesis
      | answer other response =>
          by_cases same : other = id
          · rw [same, withoutAnswers_answer_self]
            exact inductionHypothesis
          · rw [withoutAnswers_answer_of_ne same]
            exact inductionHypothesis

theorem responseTo_withoutAnswers {other : Nat} (isOther : other ≠ id)
    (log : List (Event Error Value)) :
    responseTo other (withoutAnswers id log) = responseTo other log := by
  induction log with
  | nil => rfl
  | cons event older inductionHypothesis =>
      cases event with
      | issue => exact inductionHypothesis
      | reset => exact inductionHypothesis
      | look => exact inductionHypothesis
      | answer answered response =>
          by_cases same : answered = id
          · rw [same, withoutAnswers_answer_self, inductionHypothesis,
              responseTo_answer_of_ne isOther]
          · rw [withoutAnswers_answer_of_ne same]
            simp only [responseTo, inductionHypothesis, issued_withoutAnswers]

theorem responseTo_withoutAnswers_self (log : List (Event Error Value)) :
    responseTo id (withoutAnswers id log) = none := by
  induction log with
  | nil => rfl
  | cons event older inductionHypothesis =>
      cases event with
      | issue => exact inductionHypothesis
      | reset => exact inductionHypothesis
      | look => exact inductionHypothesis
      | answer other response =>
          by_cases same : other = id
          · rw [same, withoutAnswers_answer_self]
            exact inductionHypothesis
          · rw [withoutAnswers_answer_of_ne same]
            simp [responseTo, inductionHypothesis, same]

/-- An answer the view never saw makes no difference to what it shows. -/
theorem shown_withoutAnswers (never : NeverSeen id log) :
    shown (withoutAnswers id log) = shown log := by
  induction log with
  | nil => rfl
  | cons event older inductionHypothesis =>
      have before := inductionHypothesis never.of_cons
      cases event with
      | issue => simp only [withoutAnswers_issue, shown, before]
      | reset => simp only [withoutAnswers_reset, shown, before]
      | answer other response =>
          by_cases same : other = id
          · rw [same, withoutAnswers_answer_self, before]
            rfl
          · rw [withoutAnswers_answer_of_ne same]
            exact before
      | look =>
          rw [withoutAnswers_look]
          simp only [shown, newest_withoutAnswers, before]
          cases isNewest : newest older with
          | none => rfl
          | some current =>
              by_cases same : current = id
              · have unanswered : responseTo id older = none := by
                  cases answered : responseTo id older with
                  | none => rfl
                  | some response =>
                      exact absurd ⟨older, rfl, same ▸ isNewest, answered⟩
                        (never [] (.look :: older) response rfl)
                simp only [same, unanswered, responseTo_withoutAnswers_self]
              · simp only [responseTo_withoutAnswers same]

end Superseded

end DemoBase.Foundations.NewestRequest
