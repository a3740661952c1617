import Mathlib.Algebra.BigOperators.Group.List.Basic
import Mathlib.Algebra.Ring.Nat
import Mathlib.Data.Fintype.Basic
import Mathlib.Tactic.FinCases
import SignIn.Proofs.Course
import SignIn.Proofs.Deeds
import SignIn.Proofs.FlowSafety
import SignIn.Proofs.Interleaving

/-!
# What logins report

A login visits its stages in order.  It reports each of them once, with an attempt and an outcome,
and sends its requests between the two.  All visits but the last one end well, and the last one ends
as the login does.  So what is counted of any number of logins balances, stage by stage.
-/

namespace SignIn.Google

/-- The stages of a login in order. -/
def stages : List Stage := [.awaitingCode, .exchangingToken, .fetchingProfile, .parsingProfile]

/-- What can be sent in a stage. -/
inductive Sends (registration : Registration) : Stage → Http.Request → Prop where
  | post {code : String} {request : Http.Request}
      (post_eq : tokenRequest registration code = .ok request) :
      Sends registration .exchangingToken request
  | get {token : Secret} {request : Http.Request}
      (get_eq : profileRequest registration token = .ok request) :
      Sends registration .fetchingProfile request

/-- The outcome of what ends with a given result. -/
def ending {α : Type} : Except Error α → Outcome
  | .ok _ => .success
  | .error _ => .failure

/-! ## Visits -/

/-- A stage that has been reached, and what has been sent in it. -/
structure Visit where
  stage : Stage
  requests : List Http.Request

namespace Visit

/-- All that is done in a stage. -/
def deeds (visit : Visit) (outcome : Outcome) : List Deed :=
  .reported (.reached visit.stage) :: .reported (.counted label visit.stage .attempt) ::
    (visit.requests.map (Deed.sent .empty) ++ [.reported (.counted label visit.stage outcome)])

/-- Nothing else is sent in a stage than what is allowed there. -/
def Within (Allowed : Stage → Http.Request → Prop) (visit : Visit) : Prop :=
  ∀ request ∈ visit.requests, Allowed visit.stage request

theorem events_deeds (visit : Visit) (outcome : Outcome) :
    (visit.deeds outcome).filterMap Deed.event? = block visit.stage outcome := by
  have silent : (visit.requests.map (Deed.sent .empty)).filterMap Deed.event? = [] := by
    induction visit.requests with
    | nil => rfl
    | cons request requests ih => simp [ih]
  simp [deeds, silent, block]

theorem sent_deeds (visit : Visit) (outcome : Outcome) :
    (visit.deeds outcome).filterMap Deed.sent? = visit.requests.map (Slot.empty, ·) := by
  have all_sent : (visit.requests.map (Deed.sent .empty)).filterMap Deed.sent? =
      visit.requests.map (Slot.empty, ·) := by
    induction visit.requests with
    | nil => rfl
    | cons request requests ih => simp [ih]
  simp [deeds, all_sent]

end Visit

variable {α β : Type} {Allowed : Stage → Http.Request → Prop}

/-- A way through planned stages, up to the first failure. -/
inductive Passage (Allowed : Stage → Http.Request → Prop) (planned : List Stage) :
    Except Error β → List Deed → Prop where
  | through {visits : List Visit} (content : β) (allowed : ∀ visit ∈ visits, visit.Within Allowed)
      (stages_eq : visits.map (·.stage) = planned) :
      Passage Allowed planned (.ok content) (visits.flatMap (·.deeds .success))
  | stopped {passed : List Visit} {last : Visit} (error : Error)
      (allowed : ∀ visit ∈ passed ++ [last], visit.Within Allowed)
      (in_order : (passed ++ [last]).map (·.stage) <+: planned) :
      Passage Allowed planned (.error error)
        (passed.flatMap (·.deeds .success) ++ last.deeds .failure)

namespace Passage

variable {planned : List Stage} {result : Except Error β} {deeds : List Deed}

theorem after_visit (passage : Passage Allowed planned result deeds) {visit : Visit}
    (visit_ok : visit.Within Allowed) :
    Passage Allowed (visit.stage :: planned) result (visit.deeds .success ++ deeds) := by
  cases passage with
  | @through visits content allowed stages_eq =>
    have allowed := List.forall_mem_cons.2 ⟨visit_ok, allowed⟩
    exact .through content allowed (congrArg (visit.stage :: ·) stages_eq)
  | @stopped passed last error allowed in_order =>
    have allowed : ∀ later ∈ (visit :: passed) ++ [last], later.Within Allowed :=
      List.forall_mem_cons.2 ⟨visit_ok, allowed⟩
    have in_order := (List.prefix_cons_inj visit.stage).2 in_order
    have stopped := @Passage.stopped β _ _ _ _ error allowed in_order
    rw [List.flatMap_cons, List.append_assoc] at stopped
    exact stopped

/-- Where there is a stage at all, one of them is the last. -/
theorem last (passage : Passage Allowed planned result deeds) (planned_ne : planned ≠ []) :
    ∃ (passed : List Visit) (last : Visit), (∀ visit ∈ passed ++ [last], visit.Within Allowed) ∧
      (passed ++ [last]).map (·.stage) <+: planned ∧
      (result.isOk → (passed ++ [last]).map (·.stage) = planned) ∧
      deeds = passed.flatMap (·.deeds .success) ++ last.deeds (ending result) := by
  cases passage with
  | @through visits content allowed stages_eq =>
    rcases List.eq_nil_or_concat visits with rfl | ⟨passed, last, visits_eq⟩
    · exact absurd stages_eq.symm planned_ne
    · rw [List.concat_eq_append] at visits_eq
      subst visits_eq
      refine ⟨passed, last, allowed, stages_eq ▸ List.prefix_rfl, fun _ => stages_eq, ?_⟩
      simp [ending]
  | @stopped passed last error allowed in_order =>
    exact ⟨passed, last, allowed, in_order, nofun, rfl⟩

end Passage

/-! ## Stages in a row -/

/-- A flow that goes through stages.  The work of each is quiet, and what comes after it depends on
what it has yielded. -/
inductive Staged (Allowed : Stage → Http.Request → Prop) :
    List Stage → Flow (Except Error β) → Prop where
  | done (content : β) : Staged Allowed [] (.done (.ok content))
  | observe {α : Type} (stage : Stage) {later : List Stage} {work : Flow (Except Error α)}
      {next : α → Flow (Except Error β)} (quiet : work.Quiet (Allowed stage))
      (next_staged : ∀ content, Staged Allowed later (next content)) :
      Staged Allowed (stage :: later) (observe stage work next)

/-- Such a flow makes its way through the stages. -/
theorem Staged.passage {planned : List Stage} {flow : Flow (Except Error β)}
    (staged : Staged Allowed planned flow) (answers : List Answer) :
    Passage Allowed planned (flow.play answers).result (flow.deeds answers) := by
  induction staged generalizing answers with
  | done content => exact .through content (List.forall_mem_nil _) rfl
  | @observe α stage later work next quiet _ ih =>
    obtain ⟨requests, requests_ok, work_eq⟩ := quiet.deeds_eq answers
    have visit_ok : (Visit.mk stage requests).Within Allowed := requests_ok
    rw [Google.observe, Flow.play_report, Flow.play_report, Flow.play_bind, Flow.deeds, Flow.deeds,
      Flow.deeds_bind, work_eq, Run.before]
    cases (work.play answers).result with
    | ok content =>
      have passage := (ih content (work.play answers).left).after_visit visit_ok
      simpa [Visit.deeds, Flow.deeds] using passage
    | error error =>
      have allowed : ∀ visit ∈ [] ++ [Visit.mk stage requests], visit.Within Allowed :=
        List.forall_mem_singleton.2 visit_ok
      have stopped := @Passage.stopped β _ _ _ _ error allowed (List.prefix_append [stage] later)
      simpa [Visit.deeds, Flow.deeds] using stopped

theorem roundTrip_quiet {Allowed : Http.Request → Prop} {request : Except Error Http.Request}
    (allowed : ∀ content, request = .ok content → Allowed content)
    (read : Reply → Except Error α) : (roundTrip request read).Quiet Allowed := by
  cases request with
  | error error => exact .done _
  | ok request => exact .send (allowed request rfl) fun reply => .done _

/-- A login goes through all stages. -/
theorem authenticate_staged (registration : Registration) (message : Message) :
    Staged (Sends registration) stages (authenticate registration message) := by
  refine .observe .awaitingCode (.done _) fun code => ?_
  refine .observe .exchangingToken ?_ fun token => ?_
  · rw [exchange_eq]
    exact roundTrip_quiet (fun _ => Sends.post) tokenIn
  refine .observe .fetchingProfile ?_ fun fields => ?_
  · rw [fetch_eq]
    exact roundTrip_quiet (fun _ => Sends.get) fieldsIn
  exact .observe .parsingProfile (.done _) .done

/-! ## Single logins -/

/-- All that a login does, told as visits to stages. -/
structure Account (registration : Registration) (message : Message) (answers : List Answer)
    (passed : List Visit) (last : Visit) (run : Run (Except Error Identity)) : Prop where
  /-- The visits begin with the first stage, and follow the order of the stages. -/
  in_order : (passed ++ [last]).map (·.stage) <+: stages
  /-- A login that ends well has visited all stages. -/
  complete : run.result.isOk → (passed ++ [last]).map (·.stage) = stages
  /-- A login does nothing outside of its visits. -/
  deeds_eq : (enter registration message).deeds answers =
    .reported opening :: (passed.flatMap (·.deeds .success) ++ last.deeds (ending run.result))
  /-- All visits but the last one are reported to end well. -/
  events_eq : run.events = opening :: (passed.flatMap (fun visit => block visit.stage .success) ++
    block last.stage (ending run.result))
  /-- What is sent, is sent during a visit. -/
  sent_eq : run.sent = (passed ++ [last]).flatMap fun visit => visit.requests.map (Slot.empty, ·)
  /-- What is sent during a visit, is allowed there. -/
  allowed : ∀ visit ∈ passed ++ [last], visit.Within (Sends registration)

section

variable (registration : Registration) (message : Message) (answers : List Answer)

/-- There is such an account of every login. -/
theorem exists_account : ∃ passed last, Account registration message answers passed last
    ((enter registration message).play answers) := by
  have passage := (authenticate_staged registration message).passage answers
  obtain ⟨passed, last, allowed, in_order, complete, authenticate_eq⟩ := passage.last (by decide)
  have deeds_eq : (enter registration message).deeds answers =
      .reported opening :: (passed.flatMap (·.deeds .success) ++
        last.deeds (ending ((enter registration message).play answers).result)) := by
    rw [enter, Flow.deeds, authenticate_eq]
    rfl
  refine ⟨passed, last, in_order, complete, deeds_eq, ?_, ?_, allowed⟩
  · rw [← Flow.events_deeds, deeds_eq]
    simp [List.filterMap_flatMap, Visit.events_deeds]
  · rw [← Flow.sent_deeds, deeds_eq]
    simp [List.filterMap_flatMap, Visit.sent_deeds]

end

/-! ## Counts -/

/-- How often an outcome of a stage is counted. -/
def tally (events : List Event) (stage : Stage) (outcome : Outcome) : Nat :=
  events.count (.counted label stage outcome)

/-- What is counted agrees with itself, and with a number of failures. -/
structure Balanced (events : List Event) (failures : Nat) : Prop where
  /-- Every attempt has an outcome. -/
  attempts : ∀ stage,
    tally events stage .attempt = tally events stage .success + tally events stage .failure
  /-- Where a stage ends well, the next one begins. -/
  onward : ∀ {earlier later}, [earlier, later] <:+: stages →
    tally events earlier .success = tally events later .attempt
  /-- Every failure is counted once, in one of the stages. -/
  failures : (stages.map fun stage => tally events stage .failure).sum = failures

theorem tally_append (events more : List Event) (stage : Stage) (outcome : Outcome) :
    tally (events ++ more) stage outcome =
      tally events stage outcome + tally more stage outcome :=
  List.count_append

theorem Balanced.nil : Balanced [] 0 := ⟨fun _ => rfl, fun _ => rfl, rfl⟩

theorem Balanced.append {events more : List Event} {failures further : Nat}
    (balanced : Balanced events failures) (also : Balanced more further) :
    Balanced (events ++ more) (failures + further) := by
  refine ⟨fun stage => ?_, fun adjacent => ?_, ?_⟩
  · have first := balanced.attempts stage
    have second := also.attempts stage
    simp only [tally_append]
    omega
  · rw [tally_append, tally_append, balanced.onward adjacent, also.onward adjacent]
  · rw [← balanced.failures, ← also.failures, ← List.sum_map_add]
    simp only [tally_append]

instance : Fintype Stage where
  elems := stages.toFinset
  complete stage := by cases stage <;> decide

/-- Where visits follow the order of the stages, the last one tells all others. -/
theorem visited_eq_take {visited : List Stage} {reached : Stage}
    (in_order : visited ++ [reached] <+: stages) :
    ∃ index : Fin stages.length, visited = stages.take index ∧ reached = stages.get index := by
  obtain ⟨later, stages_eq⟩ := in_order
  rw [← stages_eq]
  exact ⟨⟨visited.length, by simp⟩, by simp, by simp⟩

theorem balanced_failure (index : Fin stages.length) :
    Balanced (opening :: ((stages.take index).flatMap (block · .success) ++
      block (stages.get index) .failure)) 1 := by
  fin_cases index <;> exact ⟨by decide, by decide, by decide⟩

theorem balanced_success : Balanced (opening :: stages.flatMap (block · .success)) 0 :=
  ⟨by decide, by decide, by decide⟩

/-- What one login counts agrees with its result. -/
theorem Account.balanced {registration : Registration} {message : Message} {answers : List Answer}
    {passed : List Visit} {last : Visit} {run : Run (Except Error Identity)}
    (account : Account registration message answers passed last run) :
    Balanced run.events (if run.result.isOk then 0 else 1) := by
  obtain ⟨in_order, complete, _, events_eq, _, _⟩ := account
  have blocks_eq : passed.flatMap (fun visit => block visit.stage .success) =
      (passed.map (·.stage)).flatMap (block · .success) := by
    rw [List.flatMap_map]
  rw [List.map_append, List.map_singleton] at in_order complete
  rw [events_eq, blocks_eq]
  cases result_eq : run.result with
  | ok identity =>
    have stages_eq := complete (by rw [result_eq]; rfl)
    have balanced := balanced_success
    rw [← stages_eq, List.flatMap_append, List.flatMap_singleton] at balanced
    exact balanced
  | error error =>
    obtain ⟨index, visited_eq, reached_eq⟩ := visited_eq_take in_order
    rw [visited_eq, reached_eq]
    exact balanced_failure index

/-! ## Many logins -/

/-- Whether a login among others has ended with an error. -/
def endedInError (call : Call (Except Error Identity)) : Bool :=
  match call.result? with
  | some (.error _) => true
  | _ => false

theorem balanced_calls {calls : List (Call (Except Error Identity))}
    (each : ∀ call ∈ calls, Balanced call.events (if endedInError call then 1 else 0)) :
    Balanced (calls.flatMap (·.events)) (calls.countP endedInError) := by
  induction calls with
  | nil => exact .nil
  | cons call calls ih =>
    have first := each call List.mem_cons_self
    have others := ih fun later member => each later (List.mem_cons_of_mem call member)
    rw [List.flatMap_cons, List.countP_cons, Nat.add_comm]
    exact first.append others

/-- A login among others, once it has ended, has counted what it counts alone. -/
theorem balanced_call {logins : List (Registration × Message)} {moves : List Move}
    {last : World (Except Error Identity)}
    (ran : (World.start (logins.map fun login => enter login.1 login.2)).run moves = some last)
    {call : Call (Except Error Identity)} (member : call ∈ last.calls)
    (ended : call.result?.isSome) : Balanced call.events (if endedInError call then 1 else 0) := by
  obtain ⟨result, result_eq⟩ := Option.isSome_iff_exists.1 ended
  obtain ⟨flow, flow_mem, answers, run_eq⟩ := World.ended_alone ran member result_eq
  obtain ⟨⟨registration, message⟩, -, rfl⟩ := List.mem_map.1 flow_mem
  obtain ⟨passed, last, account⟩ := exists_account registration message answers
  have balanced := account.balanced
  rw [run_eq] at balanced
  rw [endedInError, result_eq]
  cases result with
  | ok identity => exact balanced
  | error error => exact balanced

/-- There is an account of every login: it visits the stages in order, up to the first failure, does
all that it does during these visits, and reports each of them by its outcome.  So what any number
of logins count, whatever turns they take, agrees with the number of those that fail. -/
theorem logins_are_accounted_for :
    (∀ registration message answers, ∃ passed last,
      Account registration message answers passed last
        ((enter registration message).play answers)) ∧
    ∀ (logins : List (Registration × Message)) (moves : List Move)
      (last : World (Except Error Identity)),
      (World.start (logins.map fun login => enter login.1 login.2)).run moves = some last →
      (∀ call ∈ last.calls, call.result?.isSome) →
      Balanced (last.calls.flatMap (·.events)) (last.calls.countP endedInError) := by
  refine ⟨exists_account, fun logins moves last ran ended => balanced_calls fun call member => ?_⟩
  exact balanced_call ran member (ended call member)

/-- A login fails for want of a callback, another one for want of an answer. -/
theorem logins_are_accounted_for_two :
    let logins : List (Registration × Message) :=
      [(exampleRegistration, ⟨[], []⟩), (exampleRegistration, exampleCallback)]
    let moves := List.replicate 4 (Move.proceed 0) ++ List.replicate 7 (Move.proceed 1) ++
      [Move.answer 1 (.error (.other "lost")), Move.proceed 1]
    ∃ last : World (Except Error Identity),
      (World.start (logins.map fun login => enter login.1 login.2)).run moves = some last ∧
      (∀ call ∈ last.calls, call.result?.isSome) ∧ last.calls.countP endedInError = 2 ∧
      Balanced (last.calls.flatMap (·.events)) 2 := by
  intro logins moves
  have ended_eq : ((World.start (logins.map fun login => enter login.1 login.2)).run moves).map
      (fun last => (last.calls.all (·.result?.isSome), last.calls.countP endedInError)) =
        some (true, 2) := by decide +kernel
  obtain ⟨last, ran, counted⟩ := Option.map_eq_some_iff.1 ended_eq
  obtain ⟨all_ended, failed_eq⟩ := Prod.mk.inj counted
  have ended := List.all_eq_true.1 all_ended
  have balanced := logins_are_accounted_for.2 logins moves last ran ended
  rw [failed_eq] at balanced
  exact ⟨last, ran, ended, failed_eq, balanced⟩

end SignIn.Google
