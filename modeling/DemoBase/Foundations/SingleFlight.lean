import DemoBase.Foundations.Machine

/-!
Owns forms that talk to a server. A form is busy from sending a request until its
answer, and the controls that would send another one are disabled meanwhile; requests
and answers take their time and may be lost. What handling a request establishes about
the server, and nothing undoes, still holds when the form has its answer.
-/

set_option autoImplicit false

namespace DemoBase.Foundations.SingleFlight

universe u v w x y z t

/-- A form: what can be edited in it, what submitting it sends, and what an answer
makes of it. -/
structure Form (View : Type u) (Edit : Type v) (Request : Type w) (Answer : Type x) where
  busy : View → Bool
  edit : View → Edit → View
  submit : View → View × Option Request
  settle : View → Answer → View

/-- Only sending a request makes the form busy, and only an answer ends that. -/
structure Form.Disciplined {View : Type u} {Edit : Type v} {Request : Type w} {Answer : Type x}
    (form : Form View Edit Request Answer) : Prop where
  edit : ∀ view edit, form.busy (form.edit view edit) = form.busy view
  submit : ∀ view, form.busy view = false →
    form.busy (form.submit view).1 = (form.submit view).2.isSome
  settle : ∀ view answer, form.busy (form.settle view answer) = false

/-- A server that handles requests, given what each finds outside the program, and
goes through events of its own. -/
structure Service (Server : Type y) (World : Type z) (Event : Type t) (Request : Type w)
    (Answer : Type x) where
  handle : Server → World → Request → Server × Answer
  elsewhere : Server → Event → Server

/-- A request on its way to the server, or its answer on the way back. -/
inductive Flight (Request : Type w) (Answer : Type x) where
  | going (request : Request)
  | returning (request : Request) (answer : Answer)

def Flight.request {Request : Type w} {Answer : Type x} : Flight Request Answer → Request
  | .going request => request
  | .returning request _ => request

/-- The form, the server and everything in between. `settled` is the last request the
form got an answer to. -/
structure Exchange (View : Type u) (Server : Type y) (Request : Type w) (Answer : Type x) where
  view : View
  server : Server
  flights : List (Flight Request Answer)
  settled : Option (Request × Answer)

inductive Action (Edit : Type v) (World : Type z) (Event : Type t) where
  | edit (edit : Edit)
  | submit
  | elsewhere (event : Event)
  | handle (index : Nat) (world : World)
  | arrive (index : Nat)
  | lose (index : Nat)

variable {View : Type u} {Edit : Type v} {Request : Type w} {Answer : Type x} {Server : Type y}
  {World : Type z} {Event : Type t}

section System

variable (form : Form View Edit Request Answer)
  (service : Service Server World Event Request Answer) (lost : Answer)

/-- The form gets an answer to the request of a flight. -/
def Exchange.settle (system : Exchange View Server Request Answer) (index : Nat)
    (request : Request) (answer : Answer) : Exchange View Server Request Answer :=
  { system with
    view := form.settle system.view answer
    flights := system.flights.eraseIdx index
    settled := some (request, answer) }

/-- A busy form submits nothing. An answer to a lost request or a lost answer comes
from the browser itself. -/
def step (system : Exchange View Server Request Answer) :
    Action Edit World Event → Exchange View Server Request Answer
  | .edit edit => { system with view := form.edit system.view edit }
  | .submit =>
      if form.busy system.view then system
      else
        { system with
          view := (form.submit system.view).1
          flights := system.flights ++ ((form.submit system.view).2.map Flight.going).toList }
  | .elsewhere event => { system with server := service.elsewhere system.server event }
  | .handle index world =>
      match system.flights[index]? with
      | some (.going request) =>
          { system with
            server := (service.handle system.server world request).1
            flights := system.flights.set index
              (.returning request (service.handle system.server world request).2) }
      | _ => system
  | .arrive index =>
      match system.flights[index]? with
      | some (.returning request answer) => system.settle form index request answer
      | _ => system
  | .lose index =>
      match system.flights[index]? with
      | some flight => system.settle form index flight.request lost
      | none => system

def machine : Machine (Exchange View Server Request Answer) (Action Edit World Event) Unit :=
  ⟨fun system action => (step form service lost system action, ())⟩

def opened (view : View) (server : Server) : Exchange View Server Request Answer :=
  ⟨view, server, [], none⟩

end System

/-! ### One request at a time -/

section Flights

variable {form : Form View Edit Request Answer}
  {service : Service Server World Event Request Answer} {lost : Answer}

/-- Something is in flight exactly while the form is busy, and then it is one request. -/
def OneFlight (form : Form View Edit Request Answer)
    (system : Exchange View Server Request Answer) : Prop :=
  system.flights.length = (form.busy system.view).toNat

theorem OneFlight.busy_of_getElem? {system : Exchange View Server Request Answer}
    (one : OneFlight form system) {index : Nat} {flight : Flight Request Answer}
    (inFlight : system.flights[index]? = some flight) :
    form.busy system.view = true ∧ index = 0 ∧ system.flights = [flight] := by
  unfold OneFlight at one
  obtain ⟨below, -⟩ := List.getElem?_eq_some_iff.mp inFlight
  cases busy : form.busy system.view with
  | false =>
      rw [busy, Bool.toNat_false] at one
      omega
  | true =>
      rw [busy, Bool.toNat_true] at one
      obtain ⟨only, flights⟩ := List.length_eq_one_iff.mp one
      rw [flights, List.length_singleton] at below
      obtain rfl : index = 0 := by omega
      rw [flights] at inFlight
      obtain rfl : only = flight := by simpa using inFlight
      exact ⟨rfl, rfl, flights⟩

theorem OneFlight.settle (disciplined : form.Disciplined)
    {system : Exchange View Server Request Answer} (one : OneFlight form system) {index : Nat}
    {flight : Flight Request Answer} (inFlight : system.flights[index]? = some flight)
    (answer : Answer) : OneFlight form (system.settle form index flight.request answer) := by
  obtain ⟨-, rfl, flights⟩ := one.busy_of_getElem? inFlight
  show (system.flights.eraseIdx 0).length = (form.busy (form.settle system.view answer)).toNat
  rw [disciplined.settle, flights]
  rfl

theorem OneFlight.step (disciplined : form.Disciplined)
    {system : Exchange View Server Request Answer} (one : OneFlight form system)
    (action : Action Edit World Event) :
    OneFlight form (step form service lost system action) := by
  cases action with
  | edit edit =>
      show system.flights.length = _
      rw [one]
      exact congrArg Bool.toNat (disciplined.edit system.view edit).symm
  | submit =>
      by_cases busy : form.busy system.view = true
      · simp only [SingleFlight.step, if_pos busy]
        exact one
      · simp only [SingleFlight.step, if_neg busy]
        have free : form.busy system.view = false := Bool.eq_false_iff.mpr busy
        have idle : system.flights = [] := by
          apply List.length_eq_zero_iff.mp
          rw [one, free]
          rfl
        show (system.flights ++ _).length = (form.busy (form.submit system.view).1).toNat
        rw [idle, disciplined.submit system.view free]
        cases (form.submit system.view).2 <;> rfl
  | elsewhere event => exact one
  | handle index world =>
      simp only [SingleFlight.step]
      split
      · show (system.flights.set index _).length = _
        rw [List.length_set]
        exact one
      · exact one
  | arrive index =>
      simp only [SingleFlight.step]
      split
      · rename_i request answer inFlight
        exact one.settle disciplined inFlight answer
      · exact one
  | lose index =>
      simp only [SingleFlight.step]
      split
      · rename_i flight inFlight
        exact one.settle disciplined inFlight lost
      · exact one

end Flights

/-! ### From handling a request to its answer -/

section Answering

variable {form : Form View Edit Request Answer}
  {service : Service Server World Event Request Answer} {lost : Answer}

/-- The action brings the form an answer. -/
def Action.Answers : Action Edit World Event → Prop
  | .arrive _ => True
  | .lose _ => True
  | _ => False

/-- An answer on its way stays on its way until the form gets one. -/
theorem returning_step {system : Exchange View Server Request Answer} {index : Nat}
    {request : Request} {answer : Answer}
    (returns : system.flights[index]? = some (.returning request answer))
    {action : Action Edit World Event} (silent : ¬ action.Answers) :
    (step form service lost system action).flights[index]? =
      some (.returning request answer) := by
  obtain ⟨below, -⟩ := List.getElem?_eq_some_iff.mp returns
  cases action with
  | edit edit => exact returns
  | submit =>
      simp only [SingleFlight.step]
      split
      · exact returns
      · rw [List.getElem?_append_left below]
        exact returns
  | elsewhere event => exact returns
  | handle other world =>
      simp only [SingleFlight.step]
      split
      · rename_i otherRequest going
        have apart : other ≠ index := by
          rintro rfl
          rw [returns] at going
          cases going
        rw [List.getElem?_set_ne apart]
        exact returns
      · exact returns
  | arrive other => exact absurd trivial silent
  | lose other => exact absurd trivial silent

theorem returning_foldl {index : Nat} {request : Request} {answer : Answer}
    (actions : List (Action Edit World Event)) (silent : ∀ action ∈ actions, ¬ action.Answers)
    {system : Exchange View Server Request Answer}
    (returns : system.flights[index]? = some (.returning request answer)) :
    (actions.foldl (step form service lost) system).flights[index]? =
      some (.returning request answer) := by
  induction actions generalizing system with
  | nil => exact returns
  | cons action rest inductionHypothesis =>
      apply inductionHypothesis fun other member => silent other (List.mem_cons_of_mem _ member)
      exact returning_step returns (silent action List.mem_cons_self)

theorem server_handle {system : Exchange View Server Request Answer} {index : Nat}
    {request : Request} (going : system.flights[index]? = some (.going request)) (world : World) :
    ((machine form service lost).next system (.handle index world)).server =
      (service.handle system.server world request).1 := by
  show (step form service lost system (.handle index world)).server = _
  simp only [step, going]

/-- The system once a request was handled and other things happened. -/
def handledThen (form : Form View Edit Request Answer)
    (service : Service Server World Event Request Answer) (lost : Answer)
    (system : Exchange View Server Request Answer) (index : Nat) (world : World)
    (meanwhile : List (Action Edit World Event)) : Exchange View Server Request Answer :=
  meanwhile.foldl (step form service lost) (step form service lost system (.handle index world))

/-- The system when its answer comes after that. -/
def answeredThen (form : Form View Edit Request Answer)
    (service : Service Server World Event Request Answer) (lost : Answer)
    (system : Exchange View Server Request Answer) (index : Nat) (world : World)
    (meanwhile : List (Action Edit World Event)) : Exchange View Server Request Answer :=
  step form service lost (handledThen form service lost system index world meanwhile)
    (.arrive index)

/-- The answer the form gets is the one the request was given when it was handled. -/
theorem answeredThen_eq {system : Exchange View Server Request Answer} {index : Nat}
    {request : Request} (going : system.flights[index]? = some (.going request)) (world : World)
    {meanwhile : List (Action Edit World Event)}
    (silent : ∀ action ∈ meanwhile, ¬ action.Answers) :
    answeredThen form service lost system index world meanwhile =
      (handledThen form service lost system index world meanwhile).settle form index request
        (service.handle system.server world request).2 := by
  obtain ⟨below, -⟩ := List.getElem?_eq_some_iff.mp going
  have handled : (step form service lost system (.handle index world)).flights[index]? =
      some (.returning request (service.handle system.server world request).2) := by
    simp only [step, going]
    rw [List.getElem?_set_self below]
  have returns : (handledThen form service lost system index world meanwhile).flights[index]? =
      some (.returning request (service.handle system.server world request).2) :=
    returning_foldl meanwhile silent handled
  simp only [answeredThen, step, returns]

end Answering

/-! ### What an answer tells -/

/-- What an answer to a request tells about the server, established when the request is
handled and kept by everything the server does. A lost answer tells nothing. -/
structure Told (service : Service Server World Event Request Answer) (lost : Answer)
    (tells : Server → Request → Answer → Prop) : Prop where
  handled : ∀ server world request,
    tells (service.handle server world request).1 request
      (service.handle server world request).2
  kept_handle : ∀ server world other request answer, tells server request answer →
    tells (service.handle server world other).1 request answer
  kept_elsewhere : ∀ server event request answer, tells server request answer →
    tells (service.elsewhere server event) request answer
  lost : ∀ server request, tells server request lost

/-- What the form shows agrees with the last request it got an answer to. -/
structure Reflects (form : Form View Edit Request Answer)
    (shows : View → Option (Request × Answer) → Prop) : Prop where
  edit : ∀ view settled edit, shows view settled → shows (form.edit view edit) settled
  submit : ∀ view settled, form.busy view = false → shows view settled →
    shows (form.submit view).1 settled
  settle : ∀ view settled request answer, form.busy view = true → shows view settled →
    shows (form.settle view answer) (some (request, answer))

/-- The answers on their way and the last one that arrived tell the truth about the
server, and the form shows the latter. -/
structure Truthful (tells : Server → Request → Answer → Prop)
    (shows : View → Option (Request × Answer) → Prop)
    (system : Exchange View Server Request Answer) : Prop where
  returning : ∀ request answer, Flight.returning request answer ∈ system.flights →
    tells system.server request answer
  settled : ∀ request answer, system.settled = some (request, answer) →
    tells system.server request answer
  shown : shows system.view system.settled

section Answers

variable {form : Form View Edit Request Answer}
  {service : Service Server World Event Request Answer} {lost : Answer}
  {tells : Server → Request → Answer → Prop} {shows : View → Option (Request × Answer) → Prop}

theorem Told.kept_step (told : Told service lost tells)
    {system : Exchange View Server Request Answer} {request : Request} {answer : Answer}
    (so : tells system.server request answer) (action : Action Edit World Event) :
    tells (step form service lost system action).server request answer := by
  cases action with
  | edit edit => exact so
  | submit =>
      simp only [SingleFlight.step]
      split <;> exact so
  | elsewhere event => exact told.kept_elsewhere _ event _ _ so
  | handle index world =>
      simp only [SingleFlight.step]
      split
      · exact told.kept_handle _ world _ _ _ so
      · exact so
  | arrive index =>
      simp only [SingleFlight.step]
      split <;> exact so
  | lose index =>
      simp only [SingleFlight.step]
      split <;> exact so

/-- What was told of the server when a request was handled is so when the answer comes. -/
theorem Told.kept_handledThen (told : Told service lost tells)
    {system : Exchange View Server Request Answer} {index : Nat} {world : World}
    (meanwhile : List (Action Edit World Event)) {request : Request} {answer : Answer}
    (so : tells (step form service lost system (.handle index world)).server request answer) :
    tells (handledThen form service lost system index world meanwhile).server request answer := by
  unfold handledThen
  generalize step form service lost system (.handle index world) = handled at so ⊢
  induction meanwhile generalizing handled with
  | nil => exact so
  | cons action rest inductionHypothesis =>
      exact inductionHypothesis _ (told.kept_step so action)

theorem Truthful.settle (reflects : Reflects form shows)
    {system : Exchange View Server Request Answer} (truthful : Truthful tells shows system)
    (busy : form.busy system.view = true) (index : Nat) {request : Request} {answer : Answer}
    (told : tells system.server request answer) :
    Truthful tells shows (system.settle form index request answer) where
  returning := fun other otherAnswer member =>
    truthful.returning other otherAnswer (List.mem_of_mem_eraseIdx member)
  settled := by
    intro other otherAnswer same
    obtain ⟨rfl, rfl⟩ := Prod.mk.inj (Option.some.inj same)
    exact told
  shown := reflects.settle system.view system.settled request answer busy truthful.shown

theorem Truthful.step (told : Told service lost tells) (reflects : Reflects form shows)
    {system : Exchange View Server Request Answer} (one : OneFlight form system)
    (truthful : Truthful tells shows system) (action : Action Edit World Event) :
    Truthful tells shows (step form service lost system action) := by
  cases action with
  | edit edit =>
      exact ⟨truthful.returning, truthful.settled, reflects.edit _ _ edit truthful.shown⟩
  | submit =>
      simp only [SingleFlight.step]
      split
      · exact truthful
      · rename_i free
        refine ⟨fun request answer member => ?_, truthful.settled,
          reflects.submit _ _ (Bool.eq_false_iff.mpr free) truthful.shown⟩
        rcases List.mem_append.mp member with older | sent
        · exact truthful.returning request answer older
        · simp at sent
  | elsewhere event =>
      exact ⟨fun request answer member =>
          told.kept_elsewhere _ event _ _ (truthful.returning request answer member),
        fun request answer same =>
          told.kept_elsewhere _ event _ _ (truthful.settled request answer same),
        truthful.shown⟩
  | handle index world =>
      simp only [SingleFlight.step]
      split
      · rename_i handled inFlight
        refine ⟨fun request answer member => ?_,
          fun request answer same =>
            told.kept_handle _ world _ _ _ (truthful.settled request answer same),
          truthful.shown⟩
        rcases List.mem_or_eq_of_mem_set member with older | same
        · exact told.kept_handle _ world _ _ _ (truthful.returning request answer older)
        · obtain ⟨rfl, rfl⟩ := Flight.returning.inj same
          exact told.handled system.server world request
      · exact truthful
  | arrive index =>
      simp only [SingleFlight.step]
      split
      · rename_i request answer inFlight
        exact truthful.settle reflects (one.busy_of_getElem? inFlight).1 index
          (truthful.returning request answer (List.mem_of_getElem? inFlight))
      · exact truthful
  | lose index =>
      simp only [SingleFlight.step]
      split
      · rename_i flight inFlight
        exact truthful.settle reflects (one.busy_of_getElem? inFlight).1 index
          (told.lost system.server _)
      · exact truthful

/-- In every run of a disciplined form one request is in flight while it is busy and
none otherwise, and the form shows what an answer told that is true of the server. -/
theorem exchange_of_run (disciplined : form.Disciplined) (told : Told service lost tells)
    (reflects : Reflects form shows) {view : View} (idle : form.busy view = false)
    (nothingShown : shows view none) {server : Server}
    {past : Machine.History (Exchange View Server Request Answer) (Action Edit World Event) Unit}
    {system : Exchange View Server Request Answer}
    (run : Machine.Run (machine form service lost) Machine.unrestricted (opened view server) past
      system) :
    OneFlight form system ∧ Truthful tells shows system := by
  apply run.invariant
  · refine ⟨?_, ?_, ?_, nothingShown⟩
    · show 0 = (form.busy view).toNat
      rw [idle]
      rfl
    · intro request answer member
      cases member
    · intro request answer same
      cases same
  · intro _ before action _ _ kept
    exact ⟨kept.1.step disciplined action, kept.2.step told reflects kept.1 action⟩

end Answers

/-! ### A service nobody hears from -/

section Inert

variable {form : Form View Edit Request Answer}
  {service : Service Server World Event Request Answer} {lost : Answer}

/-- Handling a request changes nothing and looks as if the request was lost. -/
def Service.Inert (service : Service Server World Event Request Answer) (lost : Answer) : Prop :=
  ∀ server world request, service.handle server world request = (server, lost)

theorem Service.Inert.told (inert : service.Inert lost) :
    Told service lost fun _ _ answer => answer = lost where
  handled := by
    intro server world request
    rw [inert]
  kept_handle := fun _ _ _ _ _ same => same
  kept_elsewhere := fun _ _ _ _ same => same
  lost := fun _ _ => rfl

def Action.event? : Action Edit World Event → Option Event
  | .elsewhere event => some event
  | _ => none

/-- What went on at the server by itself in a run, newest first. -/
def events (past : Machine.History (Exchange View Server Request Answer)
    (Action Edit World Event) Unit) : List Event :=
  past.filterMap fun answered => answered.input.event?

/-- An inert service goes through its own events and nothing else. -/
theorem Service.Inert.server_of_run (inert : service.Inert lost)
    {environment : Machine.Environment (Exchange View Server Request Answer)
      (Action Edit World Event) Unit}
    {start : Exchange View Server Request Answer}
    {past : Machine.History (Exchange View Server Request Answer) (Action Edit World Event) Unit}
    {system : Exchange View Server Request Answer}
    (run : Machine.Run (machine form service lost) environment start past system) :
    system.server =
      (events past).foldr (fun event server => service.elsewhere server event) start.server := by
  induction run with
  | start => rfl
  | @step past before action earlier allowed inductionHypothesis =>
      show (step form service lost before action).server = _
      cases action with
      | edit edit => exact inductionHypothesis
      | submit =>
          simp only [SingleFlight.step]
          split <;> exact inductionHypothesis
      | elsewhere event =>
          exact congrArg (fun server => service.elsewhere server event) inductionHypothesis
      | handle index world =>
          simp only [SingleFlight.step, inert before.server world]
          split <;> exact inductionHypothesis
      | arrive index =>
          simp only [SingleFlight.step]
          split <;> exact inductionHypothesis
      | lose index =>
          simp only [SingleFlight.step]
          split <;> exact inductionHypothesis

end Inert

end DemoBase.Foundations.SingleFlight
