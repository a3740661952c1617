import Mathlib.Data.List.Forall2
import SignIn.Proofs.Play

/-!
# Flows that differ in what they send

Two flows are alike if they do the same, except that a request of the one may stand in place of a
request of the other where a relation allows it.  Given the same answers, alike flows report the
same and end with the same result, whatever the answers are; so do alike flows that are played one
after the other.
-/

namespace SignIn

variable {α β : Type} {Allowed : Http.Request → Http.Request → Prop}

/-- Two flows that do the same, up to requests that a relation allows in place of each other. -/
inductive Flow.Alike (Allowed : Http.Request → Http.Request → Prop) : Flow α → Flow α → Prop where
  | done (result : α) : Flow.Alike Allowed (.done result) (.done result)
  | report (event : Event) {left right : Flow α} (next : Flow.Alike Allowed left right) :
      Flow.Alike Allowed (.report event left) (.report event right)
  | send (slot : Slot) {request other : Http.Request} {left right : Reply → Flow α}
      (allowed : Allowed request other)
      (next : ∀ reply, Flow.Alike Allowed (left reply) (right reply)) :
      Flow.Alike Allowed (.send slot request left) (.send slot other right)

/-- Two runs with the same result, the same events and the same answers left, and with requests that
a relation allows in place of each other. -/
structure Run.Alike (Allowed : Http.Request → Http.Request → Prop) (left right : Run α) : Prop where
  /-- The results are the same. -/
  result_eq : left.result = right.result
  /-- The events are the same. -/
  events_eq : left.events = right.events
  /-- The same answers are left. -/
  left_eq : left.left = right.left
  /-- As many requests are sent, in the same slots. -/
  sent : List.Forall₂ (fun sent other => sent.1 = other.1 ∧ Allowed sent.2 other.2)
    left.sent right.sent

namespace Flow

theorem Alike.refl (same : ∀ request, Allowed request request) (flow : Flow α) :
    Alike Allowed flow flow := by
  induction flow with
  | done result => exact .done result
  | report event next ih => exact .report event ih
  | send slot request next ih => exact .send slot (same request) ih

theorem Alike.bind {left right : Flow α} {left_next right_next : α → Flow β}
    (alike : Alike Allowed left right)
    (next : ∀ result, Alike Allowed (left_next result) (right_next result)) :
    Alike Allowed (left.bind left_next) (right.bind right_next) := by
  induction alike with
  | done result => exact next result
  | report event _ ih => exact .report event ih
  | send slot allowed _ ih => exact .send slot allowed ih

/-- Alike flows have alike runs. -/
theorem Alike.play {left right : Flow α} (alike : Alike Allowed left right)
    (answers : List Answer) : (left.play answers).Alike Allowed (right.play answers) := by
  induction alike generalizing answers with
  | done result => exact ⟨rfl, rfl, rfl, .nil⟩
  | report event _ ih =>
    obtain ⟨result_eq, events_eq, left_eq, sent⟩ := ih answers
    refine ⟨result_eq, ?_, left_eq, sent⟩
    simp only [play_report, events_eq]
  | send slot allowed _ ih =>
    obtain ⟨result_eq, events_eq, left_eq, sent⟩ :=
      ih ((answers.headD .exhausted).reply slot) answers.tail
    exact ⟨result_eq, events_eq, left_eq, .cons ⟨rfl, allowed⟩ sent⟩

/-! ## One after the other -/

/-- Play flows one after the other, each against the answers that those before it have left. -/
def playAll : List (Flow α) → List Answer → List (Run α)
  | [], _ => []
  | flow :: flows, answers =>
    let run := flow.play answers
    run :: playAll flows run.left

theorem playAll_alike {lefts rights : List (Flow α)}
    (alike : List.Forall₂ (Alike Allowed) lefts rights) (answers : List Answer) :
    List.Forall₂ (Run.Alike Allowed) (playAll lefts answers) (playAll rights answers) := by
  induction alike generalizing answers with
  | nil => exact .nil
  | cons first_alike _ ih =>
    have first := first_alike.play answers
    rw [playAll, playAll]
    refine .cons first ?_
    rw [← first.left_eq]
    exact ih _

end Flow

end SignIn
