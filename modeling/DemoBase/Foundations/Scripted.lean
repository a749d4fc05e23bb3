import Mathlib.Data.List.Basic

/-!
Owns computations that make named calls to the outside world and can be struck
by a failure at any one of them. A `Scripted` value lists the calls in order;
each call carries the handlers that an error raised there passes through on its
way out, innermost first. `runWith` gives the outcome under an injected failure.
-/

set_option autoImplicit false

namespace DemoBase.Foundations

universe u v w

/-- The calls of a computation and its result when none of them is struck. -/
structure Scripted (Site : Type u) (Error : Type v) (Value : Type w) where
  calls : List (Site × (Error → Error))
  result : Except Error Value

namespace Scripted

variable {Site : Type u} {Error : Type v} {Value Next : Type w}

/-- A computation without calls. -/
def ofExcept (result : Except Error Value) : Scripted Site Error Value := ⟨[], result⟩

/-- One call to the outside world, with what it answers when it is not struck. -/
def perform (site : Site) (result : Except Error Value) : Scripted Site Error Value :=
  ⟨[(site, id)], result⟩

/-- Run one computation after another; an error ends both. -/
def andThen (first : Scripted Site Error Value) (rest : Value → Scripted Site Error Next) :
    Scripted Site Error Next :=
  match first.result with
  | .ok value => ⟨first.calls ++ (rest value).calls, (rest value).result⟩
  | .error error => ⟨first.calls, .error error⟩

instance : Monad (Scripted Site Error) where
  pure value := ofExcept (.ok value)
  bind := andThen

/-- Every error of the computation leaves it through `handler`. -/
def rethrow (handler : Error → Error) (computation : Scripted Site Error Value) :
    Scripted Site Error Value :=
  ⟨computation.calls.map fun call => (call.1, handler ∘ call.2),
    computation.result.mapError handler⟩

/-- The outcome when the call at the given site, if it is reached, raises the
given error instead of answering. -/
def runWith [DecidableEq Site] (fault : Option (Site × Error))
    (computation : Scripted Site Error Value) : Except Error Value :=
  match fault with
  | none => computation.result
  | some (site, error) =>
      match computation.calls.find? fun call => call.1 = site with
      | some call => .error (call.2 error)
      | none => computation.result

/-- The computation reaches the call at `site`. -/
def Reaches (computation : Scripted Site Error Value) (site : Site) : Prop :=
  ∃ handler, (site, handler) ∈ computation.calls

theorem reaches_iff {computation : Scripted Site Error Value} {site : Site} :
    computation.Reaches site ↔ site ∈ computation.calls.map Prod.fst := by
  simp [Reaches]

@[simp] theorem reaches_ofExcept {site : Site} {result : Except Error Value} :
    (ofExcept result : Scripted Site Error Value).Reaches site ↔ False := by
  simp [Reaches, ofExcept]

@[simp] theorem reaches_perform {site other : Site} {result : Except Error Value} :
    (perform other result).Reaches site ↔ site = other := by
  simp [Reaches, perform]

/-- A sequence reaches the calls of its first part, and those of the rest once that
returned. -/
theorem reaches_andThen {first : Scripted Site Error Value}
    {rest : Value → Scripted Site Error Next} {site : Site} :
    (first.andThen rest).Reaches site ↔
      first.Reaches site ∨ ∃ value, first.result = .ok value ∧ (rest value).Reaches site := by
  unfold andThen
  cases returned : first.result with
  | ok value => simp [Reaches, exists_or]
  | error error => simp [Reaches]

@[simp] theorem reaches_bind {first : Scripted Site Error Value}
    {rest : Value → Scripted Site Error Next} {site : Site} :
    (first >>= rest).Reaches site ↔
      first.Reaches site ∨ ∃ value, first.result = .ok value ∧ (rest value).Reaches site :=
  reaches_andThen

@[simp] theorem reaches_rethrow {computation : Scripted Site Error Value} {site : Site}
    {handler : Error → Error} :
    (computation.rethrow handler).Reaches site ↔ computation.Reaches site := by
  simp [Reaches, rethrow]

theorem Reaches.andThen {first : Scripted Site Error Value} {site : Site}
    (reached : first.Reaches site) (rest : Value → Scripted Site Error Next) :
    (first.andThen rest).Reaches site :=
  reaches_andThen.mpr (Or.inl reached)

theorem Reaches.rethrow {computation : Scripted Site Error Value} {site : Site}
    (reached : computation.Reaches site) (handler : Error → Error) :
    (computation.rethrow handler).Reaches site :=
  reaches_rethrow.mpr reached

/-- Every call leaves the computation through the handler named for its site. -/
def HandledBy (handlerAt : Site → Error → Error) (computation : Scripted Site Error Value) :
    Prop :=
  ∀ call ∈ computation.calls, call.2 = handlerAt call.1

/-! ### Results -/

@[simp] theorem result_ofExcept (result : Except Error Value) :
    (ofExcept result : Scripted Site Error Value).result = result := rfl

@[simp] theorem result_perform (site : Site) (result : Except Error Value) :
    (perform site result).result = result := rfl

@[simp] theorem result_bind (first : Scripted Site Error Value)
    (rest : Value → Scripted Site Error Next) :
    (first >>= rest).result = first.result.bind fun value => (rest value).result := by
  show (first.andThen rest).result = _
  unfold andThen
  cases first.result with
  | ok value => rfl
  | error error => rfl

/-! ### What a failure at one site does -/

/-- A failure at a reached site is what leaves the computation, transformed by
that site's handlers and by nothing else. -/
theorem runWith_of_reaches [DecidableEq Site] {computation : Scripted Site Error Value}
    {handlerAt : Site → Error → Error} (handled : computation.HandledBy handlerAt) {site : Site}
    (reached : computation.Reaches site) (error : Error) :
    computation.runWith (some (site, error)) = .error (handlerAt site error) := by
  obtain ⟨handler, member⟩ := reached
  cases found : computation.calls.find? (fun call => call.1 = site) with
  | none =>
      rw [List.find?_eq_none] at found
      exact absurd (decide_eq_true rfl) (found _ member)
  | some call =>
      have atSite : call.1 = site := by simpa using List.find?_some found
      have handlerEq := handled call (List.mem_of_find?_eq_some found)
      simp only [runWith, found, handlerEq, atSite]

/-- An injected failure misses the computation or is what leaves it. -/
theorem runWith_cases [DecidableEq Site] {computation : Scripted Site Error Value}
    {handlerAt : Site → Error → Error} (handled : computation.HandledBy handlerAt)
    (fault : Option (Site × Error)) :
    (computation.runWith fault = computation.result ∧
        ∀ site error, fault = some (site, error) → ¬ computation.Reaches site) ∨
      ∃ site error, fault = some (site, error) ∧
        computation.runWith fault = .error (handlerAt site error) := by
  cases fault with
  | none => exact Or.inl ⟨rfl, fun site error struck => by cases struck⟩
  | some struck =>
      obtain ⟨site, error⟩ := struck
      by_cases reached : computation.Reaches site
      · exact Or.inr ⟨site, error, rfl, runWith_of_reaches handled reached error⟩
      · refine Or.inl ⟨?_, ?_⟩
        · have missed : computation.calls.find? (fun call => call.1 = site) = none := by
            rw [List.find?_eq_none]
            intro call member same
            exact reached ⟨call.2, of_decide_eq_true same ▸ member⟩
          simp only [runWith, missed]
        · intro other otherError same
          obtain ⟨rfl, -⟩ := Prod.mk.inj (Option.some.inj same)
          exact reached

/-! ### Which handlers a composed computation has -/

variable {handlerAt : Site → Error → Error}

theorem handledBy_ofExcept (result : Except Error Value) :
    (ofExcept result : Scripted Site Error Value).HandledBy handlerAt := by
  simp [HandledBy, ofExcept]

theorem handledBy_perform {site : Site} (result : Except Error Value)
    (plain : handlerAt site = id) : (perform site result).HandledBy handlerAt := by
  simp [HandledBy, perform, plain]

theorem HandledBy.andThen {first : Scripted Site Error Value}
    {rest : Value → Scripted Site Error Next} (firstHandled : first.HandledBy handlerAt)
    (restHandled : ∀ value, (rest value).HandledBy handlerAt) :
    (first.andThen rest).HandledBy handlerAt := by
  intro call member
  unfold Scripted.andThen at member
  split at member
  · rcases List.mem_append.mp member with inFirst | inRest
    · exact firstHandled call inFirst
    · exact restHandled _ call inRest
  · exact firstHandled call member

theorem HandledBy.rethrow {computation : Scripted Site Error Value}
    (handled : computation.HandledBy handlerAt) (handler : Error → Error) :
    (computation.rethrow handler).HandledBy fun site => handler ∘ handlerAt site := by
  intro call member
  rcases List.mem_map.mp member with ⟨inner, innerMember, rfl⟩
  simp only [handled inner innerMember]

/-- Handlers only have to be right at the sites the computation performs. -/
theorem HandledBy.congr {other : Site → Error → Error} {computation : Scripted Site Error Value}
    (handled : computation.HandledBy handlerAt)
    (agree : ∀ call ∈ computation.calls, handlerAt call.1 = other call.1) :
    computation.HandledBy other := by
  intro call member
  rw [handled call member, agree call member]

end Scripted

end DemoBase.Foundations
