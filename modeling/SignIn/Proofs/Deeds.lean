import SignIn.Proofs.Play

/-!
# Deeds

All that a flow does, what it reports and what it sends in one order.  The events of a run are those
of its deeds, and so are the requests.
-/

namespace SignIn

/-- Something that a flow does. -/
inductive Deed where
  | reported (event : Event)
  | sent (slot : Slot) (request : Http.Request)

namespace Deed

/-- The event of a deed. -/
def event? : Deed → Option Event
  | reported event => some event
  | sent _ _ => none

/-- The request of a deed, with the slot that comes with it. -/
def sent? : Deed → Option (Slot × Http.Request)
  | reported _ => none
  | sent slot request => some (slot, request)

@[simp]
theorem events_reported (event : Event) (deeds : List Deed) :
    (reported event :: deeds).filterMap event? = event :: deeds.filterMap event? := rfl

@[simp]
theorem sent_reported (event : Event) (deeds : List Deed) :
    (reported event :: deeds).filterMap sent? = deeds.filterMap sent? := rfl

@[simp]
theorem events_sent (slot : Slot) (request : Http.Request) (deeds : List Deed) :
    (sent slot request :: deeds).filterMap event? = deeds.filterMap event? := rfl

@[simp]
theorem sent_sent (slot : Slot) (request : Http.Request) (deeds : List Deed) :
    (sent slot request :: deeds).filterMap sent? = (slot, request) :: deeds.filterMap sent? := rfl

end Deed

namespace Flow

variable {α β : Type}

/-- What a flow does against given answers. -/
def deeds : Flow α → List Answer → List Deed
  | .done _, _ => []
  | .report event next, answers => .reported event :: next.deeds answers
  | .send slot request next, answers =>
    .sent slot request :: (next ((answers.headD .exhausted).reply slot)).deeds answers.tail

theorem events_deeds (flow : Flow α) (answers : List Answer) :
    (flow.deeds answers).filterMap Deed.event? = (flow.play answers).events := by
  induction flow generalizing answers with
  | done result => rfl
  | report event next ih => simp [deeds, ih]
  | send slot request next ih => simp [deeds, ih]

theorem sent_deeds (flow : Flow α) (answers : List Answer) :
    (flow.deeds answers).filterMap Deed.sent? = (flow.play answers).sent := by
  induction flow generalizing answers with
  | done result => rfl
  | report event next ih => simp [deeds, ih]
  | send slot request next ih => simp [deeds, ih]

/-- What a flow that goes on does, it does in two parts. -/
theorem deeds_bind (flow : Flow α) (next : α → Flow β) (answers : List Answer) :
    (flow.bind next).deeds answers =
      flow.deeds answers ++
        (next (flow.play answers).result).deeds (flow.play answers).left := by
  induction flow generalizing answers with
  | done result => rfl
  | report event rest ih =>
    simp only [bind, deeds, ih, play_report, List.cons_append]
  | send slot request rest ih =>
    simp only [bind, deeds, ih, play_send, List.cons_append]

/-! ## Quiet flows -/

/-- A flow that reports nothing, and sends only what is allowed, with an empty slot. -/
inductive Quiet (Allowed : Http.Request → Prop) : Flow α → Prop where
  | done (result : α) : Quiet Allowed (.done result)
  | send {request : Http.Request} {next : Reply → Flow α} (allowed : Allowed request)
      (next_quiet : ∀ reply, Quiet Allowed (next reply)) :
      Quiet Allowed (.send .empty request next)

/-- What a quiet flow does is to send. -/
theorem Quiet.deeds_eq {Allowed : Http.Request → Prop} {flow : Flow α} (quiet : flow.Quiet Allowed)
    (answers : List Answer) :
    ∃ requests : List Http.Request, (∀ request ∈ requests, Allowed request) ∧
      flow.deeds answers = requests.map (Deed.sent .empty) := by
  induction quiet generalizing answers with
  | done result => exact ⟨[], by simp, rfl⟩
  | @send request next allowed _ ih =>
    obtain ⟨requests, requests_ok, deeds_eq⟩ :=
      ih ((answers.headD .exhausted).reply .empty) answers.tail
    refine ⟨request :: requests, List.forall_mem_cons.2 ⟨allowed, requests_ok⟩, ?_⟩
    rw [deeds, deeds_eq, List.map_cons]

end Flow

end SignIn
