import SignIn.Login.Flow

/-!
# Playing flows

How a flow is played against given answers, one equation for each way to build a flow.  A flow can
also be interpreted in flows themselves, which changes nothing; so whatever is built from an
interpretation can be played too.
-/

namespace SignIn

variable {α β : Type}

/-- Go on from a run, against the answers that it has left. -/
def Run.before (first : Run α) (next : α → List Answer → Run β) : Run β :=
  let last := next first.result first.left
  ⟨last.result, first.events ++ last.events, first.sent ++ last.sent, last.left⟩

namespace Flow

@[simp]
theorem play_done (result : α) (answers : List Answer) :
    (done result).play answers = ⟨result, [], [], answers⟩ := rfl

@[simp]
theorem play_report (event : Event) (next : Flow α) (answers : List Answer) :
    (report event next).play answers =
      { next.play answers with events := event :: (next.play answers).events } := rfl

@[simp]
theorem play_send (slot : Slot) (request : Http.Request) (next : Reply → Flow α)
    (answers : List Answer) :
    (send slot request next).play answers =
      let run := (next ((answers.headD .exhausted).reply slot)).play answers.tail
      { run with sent := (slot, request) :: run.sent } := rfl

/-- A flow that goes on is played in two parts. -/
theorem play_bind (flow : Flow α) (next : α → Flow β) (answers : List Answer) :
    (flow.bind next).play answers =
      (flow.play answers).before fun result left => (next result).play left := by
  induction flow generalizing answers with
  | done result => rfl
  | report event rest ih =>
    simp only [bind, play_report, ih, Run.before, List.cons_append]
  | send slot request rest ih =>
    simp only [bind, play_send, ih, Run.before, List.cons_append]

/-! ## Flows in flows -/

/-- Send one request. -/
def ask (slot : Slot) (request : Http.Request) : Flow Reply := .send slot request .done

/-- Report one event. -/
def tell (event : Event) : Flow Unit := .report event (.done ())

theorem interpret_ask_tell (flow : Flow α) : flow.interpret ask tell = flow := by
  induction flow with
  | done result => rfl
  | report event next ih =>
    rw [interpret, ih]
    rfl
  | send slot request next ih =>
    simp only [interpret, ih]
    rfl

end Flow

/-- A flow is given an answer's metadata through the slot that it sent, if that slot was empty. -/
@[simp]
theorem Answer.reply_empty_content (answer : Answer) :
    (answer.reply .empty).slot.content = answer.metadata := by
  cases found : answer.metadata <;> simp [Answer.reply, found, Slot.store, Slot.empty]

@[simp]
theorem Answer.reply_outcome (answer : Answer) (slot : Slot) :
    (answer.reply slot).outcome = answer.outcome := rfl

end SignIn
