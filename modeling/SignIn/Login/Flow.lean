import SignIn.Trace
import SignIn.Transport

/-!
# Flows

A flow is a computation that sends requests and reports events.  It says what is to be done, not by
whom: `Flow.interpret` runs it in any monad that can send and report, `Flow.play` against a given
list of answers.
-/

namespace SignIn

/-- A computation that sends requests and reports events. -/
inductive Flow (α : Type) where
  /-- The end, with a result. -/
  | done (result : α)
  /-- Report an event and go on. -/
  | report (event : Event) (next : Flow α)
  /-- Send a request together with a slot, and go on with the reply. -/
  | send (slot : Slot) (request : Http.Request) (next : Reply → Flow α)

namespace Flow

variable {α β : Type}

/-- Go on with the result of a flow. -/
def bind : Flow α → (α → Flow β) → Flow β
  | .done result, next => next result
  | .report event rest, next => .report event (rest.bind next)
  | .send slot request rest, next => .send slot request fun reply => (rest reply).bind next

instance : Monad Flow where
  pure := .done
  bind := bind

theorem bind_done (flow : Flow α) : flow.bind .done = flow := by
  induction flow with
  | done => rfl
  | report event next ih => rw [bind, ih]
  | send slot request next ih => simp only [bind, ih]

theorem bind_assoc {γ : Type} (flow : Flow α) (next : α → Flow β) (last : β → Flow γ) :
    (flow.bind next).bind last = flow.bind fun result => (next result).bind last := by
  induction flow with
  | done => rfl
  | report event rest ih => simp only [bind, ih]
  | send slot request rest ih => simp only [bind, ih]

instance : LawfulMonad Flow :=
  LawfulMonad.mk' Flow bind_done (fun _ _ => rfl) bind_assoc

/-- Run a flow by given ways to send and to report. -/
def interpret {m : Type → Type} [Monad m] (send : Slot → Http.Request → m Reply)
    (report : Event → m Unit) : Flow α → m α
  | .done result => pure result
  | .report event next => do
    report event
    interpret send report next
  | .send slot request next => do
    let reply ← send slot request
    interpret send report (next reply)

end Flow

/-! ## Given answers -/

/-- An answer that is given in advance. -/
structure Answer where
  /-- What is stored in the slot. -/
  metadata : Option Metadata := none
  /-- The answer itself. -/
  outcome : Except TransportFault Http.Response

namespace Answer

/-- The reply of an answer. -/
def reply (answer : Answer) (slot : Slot) : Reply :=
  ⟨match answer.metadata with
    | some metadata => slot.store metadata
    | none => slot, answer.outcome⟩

/-- The answer after the last one. -/
def exhausted : Answer := ⟨none, .error (.other "script exhausted")⟩

end Answer

/-- What happened while a flow was run. -/
structure Run (α : Type) where
  /-- The result. -/
  result : α
  /-- The events in order. -/
  events : List Event
  /-- The requests in order, each with the slot that came with it. -/
  sent : List (Slot × Http.Request)
  /-- The answers that have not been used. -/
  left : List Answer

namespace Flow

variable {α : Type}

/-- Run a flow against given answers. -/
def play : Flow α → List Answer → Run α
  | .done result, answers => ⟨result, [], [], answers⟩
  | .report event next, answers =>
    let run := next.play answers
    { run with events := event :: run.events }
  | .send slot request next, answers =>
    let run := (next ((answers.headD .exhausted).reply slot)).play answers.tail
    { run with sent := (slot, request) :: run.sent }

end Flow

end SignIn
