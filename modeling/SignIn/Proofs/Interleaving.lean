import SignIn.Proofs.Play

/-!
# Interleaved flows

Any number of flows that go on in turns and send through one transport.  The slots lie in a memory
that all of them share.  The transport keeps every slot that it has been handed, and may store in it
at any time, even after it has answered.

A flow that goes on among others does what it does alone, against the answers that it is given.
-/

namespace SignIn

variable {α : Type}

/-! ## Worlds -/

/-- How far a flow has got. -/
inductive Progress (α : Type) where
  /-- It can go on by itself. -/
  | running (flow : Flow α)
  /-- It waits for an answer, with metadata to be found at a place in memory. -/
  | waiting (place : Nat) (next : Reply → Flow α)

/-- A flow among others. -/
structure Call (α : Type) where
  /-- How far it has got. -/
  stage : Progress α
  /-- Where the slots that it has sent lie, in order. -/
  places : List Nat := []
  /-- What it has sent, each request with the slot as it was handed over. -/
  sent : List (Slot × Http.Request) := []
  /-- What it has reported. -/
  events : List Event := []

/-- The result of a flow that has ended. -/
def Call.result? (call : Call α) : Option α :=
  match call.stage with
  | .running (.done result) => some result
  | _ => none

/-- Flows that go on in turns, and the slots that they have sent. -/
structure World (α : Type) where
  /-- The memory in which all slots lie. -/
  slots : List Slot
  /-- The flows. -/
  calls : List (Call α)

/-- One turn. -/
inductive Move where
  /-- A flow goes on by itself. -/
  | proceed (call : Nat)
  /-- The transport stores in the slot that a flow has sent with one of its requests. -/
  | store (call hop : Nat) (metadata : Metadata)
  /-- The transport answers the request for which a flow waits. -/
  | answer (call : Nat) (outcome : Except TransportFault Http.Response)

namespace World

/-- Before anything has happened. -/
def start (flows : List (Flow α)) : World α :=
  ⟨[], flows.map fun flow => ⟨.running flow, [], [], []⟩⟩

/-- The world after a flow has gone on: a slot that is sent gets a place of its own. -/
def proceed (world : World α) (index : Nat) (call : Call α) : Option (World α) :=
  match call.stage with
  | .running (.report event next) =>
    some ⟨world.slots, world.calls.set index
      { call with stage := .running next, events := call.events ++ [event] }⟩
  | .running (.send slot request next) =>
    some ⟨world.slots ++ [slot], world.calls.set index
      { call with
        stage := .waiting world.slots.length next
        places := call.places ++ [world.slots.length]
        sent := call.sent ++ [(slot, request)] }⟩
  | _ => none

/-- The world after the transport has stored in a slot. -/
def store (world : World α) (call : Call α) (hop : Nat) (metadata : Metadata) :
    Option (World α) :=
  match call.places[hop]? with
  | some place => some { world with slots := world.slots.modify place (·.store metadata) }
  | none => none

/-- The world after the transport has answered: what lies in the slot is taken. -/
def answer (world : World α) (index : Nat) (call : Call α)
    (outcome : Except TransportFault Http.Response) : Option (World α) :=
  match call.stage with
  | .waiting place next =>
    match world.slots[place]? with
    | some slot =>
      some ⟨world.slots.modify place (·.take.2),
        world.calls.set index { call with stage := .running (next ⟨slot, outcome⟩) }⟩
    | none => none
  | _ => none

/-- The world after a turn, if that turn is possible. -/
def step (world : World α) : Move → Option (World α)
  | .proceed index => (world.calls[index]?).bind fun call => world.proceed index call
  | .store index hop metadata =>
    (world.calls[index]?).bind fun call => world.store call hop metadata
  | .answer index outcome =>
    (world.calls[index]?).bind fun call => world.answer index call outcome

/-- The world after turns in order, if all of them are possible. -/
def run (world : World α) : List Move → Option (World α)
  | [] => some world
  | move :: moves => (world.step move).bind fun next => next.run moves

end World

/-! ## What a flow is told -/

/-- What the transport has told a flow. -/
structure Inbox where
  /-- The answers in order, each with what was stored for it. -/
  answers : List Answer := []
  /-- What is stored for the answer that comes next. -/
  pending : Option Metadata := none

namespace Inbox

/-- A flow is told what is stored for its next answer, and that answer; of all other turns it is
told nothing. -/
def tell (index : Nat) (inbox : Inbox) : Move → Inbox
  | .proceed _ => inbox
  | .store call hop metadata =>
    if call = index ∧ hop = inbox.answers.length then { inbox with pending := some metadata }
    else inbox
  | .answer call outcome =>
    if call = index then ⟨inbox.answers ++ [⟨inbox.pending, outcome⟩], none⟩ else inbox

/-- The slot with which a request was sent, after what has been stored for its answer. -/
def slot (inbox : Inbox) (sent : Slot) : Slot :=
  match inbox.pending with
  | some metadata => sent.store metadata
  | none => sent

end Inbox

/-- The answers that a flow is given in the course of some turns. -/
def received (index : Nat) (moves : List Move) : List Answer :=
  (moves.foldl (Inbox.tell index) {}).answers

/-! ## What holds at any time -/

/-- A run behind what has happened before. -/
def Run.behind (events : List Event) (sent : List (Slot × Http.Request)) (run : Run α) : Run α :=
  { run with events := events ++ run.events, sent := sent ++ run.sent }

/-- A flow that has been told what is in an inbox has done what it does alone: alone, it does the
same and then what remains to be done. -/
inductive Faithful (flow : Flow α) (inbox : Inbox) (slots : List Slot) : Call α → Prop where
  | running {current : Flow α} {places : List Nat} {sent : List (Slot × Http.Request)}
      {events : List Event}
      (play_eq : ∀ answers, flow.play (inbox.answers ++ answers) =
        (current.play answers).behind events sent)
      (places_eq : places.length = inbox.answers.length) (sent_eq : sent.length = places.length)
      (pending_eq : inbox.pending = none) :
      Faithful flow inbox slots ⟨.running current, places, sent, events⟩
  | waiting {place : Nat} {next : Reply → Flow α} {places : List Nat}
      {sent : List (Slot × Http.Request)} {events : List Event} {slot : Slot}
      (play_eq : ∀ answers, flow.play (inbox.answers ++ answers) =
        ((next ((answers.headD .exhausted).reply slot)).play answers.tail).behind events sent)
      (places_eq : places.length = inbox.answers.length + 1) (sent_eq : sent.length = places.length)
      (place_eq : places[inbox.answers.length]? = some place)
      (slot_eq : slots[place]? = some (inbox.slot slot)) :
      Faithful flow inbox slots ⟨.waiting place next, places, sent, events⟩

/-- A flow owns a place of the memory, for one of its requests. -/
def World.Owns (world : World α) (index hop place : Nat) : Prop :=
  ∃ call, world.calls[index]? = some call ∧ call.places[hop]? = some place

/-- Different requests have different places, and all of these lie in the memory. -/
structure World.Apart (world : World α) : Prop where
  /-- A place lies in the memory. -/
  inside : ∀ {index hop place}, world.Owns index hop place → place < world.slots.length
  /-- A place has one owner. -/
  distinct : ∀ {index hop other later place}, world.Owns index hop place →
    world.Owns other later place → index = other ∧ hop = later

/-- All flows are faithful to what they have been told. -/
structure World.Sound (flows : List (Flow α)) (inboxes : Nat → Inbox) (world : World α) : Prop where
  /-- Nothing is shared. -/
  apart : world.Apart
  /-- No flow is lost. -/
  length_eq : world.calls.length = flows.length
  /-- Each flow is faithful. -/
  faithful : ∀ {index flow call}, flows[index]? = some flow → world.calls[index]? = some call →
    Faithful flow (inboxes index) world.slots call

theorem World.sound_start (flows : List (Flow α)) :
    (World.start flows).Sound flows fun _ => {} := by
  have no_places : ∀ {index hop place}, ¬(World.start flows).Owns index hop place := by
    rintro index hop place ⟨call, call_eq, place_eq⟩
    simp only [World.start, List.getElem?_map, Option.map_eq_some_iff] at call_eq
    obtain ⟨flow, _, rfl⟩ := call_eq
    cases place_eq
  refine ⟨⟨fun owned => absurd owned no_places, fun owned _ => absurd owned no_places⟩, ?_, ?_⟩
  · simp [World.start]
  · intro index flow call flow_eq call_eq
    simp only [World.start, List.getElem?_map, flow_eq, Option.map_some,
      Option.some.injEq] at call_eq
    subst call_eq
    exact .running (fun _ => rfl) rfl rfl rfl

/-! ## One turn -/

/-- What a turn can do. -/
inductive World.Turn (world : World α) : Move → World α → Prop where
  | report {index : Nat} {event : Event} {next : Flow α} {places : List Nat}
      {sent : List (Slot × Http.Request)} {events : List Event}
      (call_eq : world.calls[index]? =
        some ⟨.running (.report event next), places, sent, events⟩) :
      World.Turn world (.proceed index)
        ⟨world.slots, world.calls.set index ⟨.running next, places, sent, events ++ [event]⟩⟩
  | send {index : Nat} {slot : Slot} {request : Http.Request} {next : Reply → Flow α}
      {places : List Nat} {sent : List (Slot × Http.Request)} {events : List Event}
      (call_eq : world.calls[index]? =
        some ⟨.running (.send slot request next), places, sent, events⟩) :
      World.Turn world (.proceed index)
        ⟨world.slots ++ [slot], world.calls.set index
          ⟨.waiting world.slots.length next, places ++ [world.slots.length],
            sent ++ [(slot, request)], events⟩⟩
  | store {index hop place : Nat} (metadata : Metadata) (owned : world.Owns index hop place) :
      World.Turn world (.store index hop metadata)
        ⟨world.slots.modify place (·.store metadata), world.calls⟩
  | answer {index place : Nat} {next : Reply → Flow α} {places : List Nat}
      {sent : List (Slot × Http.Request)} {events : List Event} {slot : Slot}
      (outcome : Except TransportFault Http.Response)
      (call_eq : world.calls[index]? = some ⟨.waiting place next, places, sent, events⟩)
      (slot_eq : world.slots[place]? = some slot) :
      World.Turn world (.answer index outcome)
        ⟨world.slots.modify place (·.take.2), world.calls.set index
          ⟨.running (next ⟨slot, outcome⟩), places, sent, events⟩⟩

theorem World.turn_of_step {world next : World α} {move : Move}
    (stepped : world.step move = some next) : world.Turn move next := by
  cases move with
  | proceed index =>
    obtain ⟨⟨stage, places, sent, events⟩, call_eq, moved⟩ := Option.bind_eq_some_iff.1 stepped
    unfold World.proceed at moved
    split at moved
    next stage_eq =>
      cases moved
      cases stage_eq
      exact .report call_eq
    next stage_eq =>
      cases moved
      cases stage_eq
      exact .send call_eq
    next => cases moved
  | store index hop metadata =>
    obtain ⟨call, call_eq, moved⟩ := Option.bind_eq_some_iff.1 stepped
    unfold World.store at moved
    split at moved
    next place place_eq =>
      cases moved
      exact .store metadata ⟨call, call_eq, place_eq⟩
    next => cases moved
  | answer index outcome =>
    obtain ⟨⟨stage, places, sent, events⟩, call_eq, moved⟩ := Option.bind_eq_some_iff.1 stepped
    unfold World.answer at moved
    split at moved
    next place next stage_eq =>
      cases stage_eq
      split at moved
      next slot slot_eq =>
        cases moved
        exact .answer outcome call_eq slot_eq
      next => cases moved
    next => cases moved

/-! ## Places -/

theorem World.owns_set_iff {world : World α} {slots : List Slot} {index : Nat}
    {call changed : Call α} (call_eq : world.calls[index]? = some call)
    (places_eq : changed.places = call.places) {other hop place : Nat} :
    World.Owns ⟨slots, world.calls.set index changed⟩ other hop place ↔
      world.Owns other hop place := by
  have inside := (List.getElem?_eq_some_iff.1 call_eq).1
  unfold World.Owns
  by_cases same : index = other
  · subst same
    simp only [List.getElem?_set_self inside, Option.some.injEq, exists_eq_left', places_eq,
      call_eq]
  · simp only [List.getElem?_set_ne same]

theorem World.Apart.same_places {world next : World α} (apart : world.Apart)
    (slots_le : world.slots.length ≤ next.slots.length)
    (owns_iff : ∀ {index hop place}, next.Owns index hop place ↔ world.Owns index hop place) :
    next.Apart :=
  ⟨fun owned => Nat.lt_of_lt_of_le (apart.inside (owns_iff.1 owned)) slots_le,
    fun owned further => apart.distinct (owns_iff.1 owned) (owns_iff.1 further)⟩

theorem World.Apart.send {world : World α} (apart : world.Apart) {index : Nat} {slot : Slot}
    {call : Call α} {next : Reply → Flow α} {sent : List (Slot × Http.Request)}
    (call_eq : world.calls[index]? = some call) :
    World.Apart ⟨world.slots ++ [slot], world.calls.set index
      ⟨.waiting world.slots.length next, call.places ++ [world.slots.length], sent,
        call.events⟩⟩ := by
  have inside := (List.getElem?_eq_some_iff.1 call_eq).1
  have owns_cases : ∀ {other hop place}, World.Owns ⟨world.slots ++ [slot], world.calls.set index
      ⟨.waiting world.slots.length next, call.places ++ [world.slots.length], sent,
        call.events⟩⟩ other hop place →
      world.Owns other hop place ∨
        (other = index ∧ hop = call.places.length ∧ place = world.slots.length) := by
    rintro other hop place ⟨found, found_eq, place_eq⟩
    by_cases same : index = other
    · subst same
      simp only [List.getElem?_set_self inside, Option.some.injEq] at found_eq
      subst found_eq
      rcases Nat.lt_trichotomy hop call.places.length with earlier | rfl | later
      · rw [List.getElem?_append_left earlier] at place_eq
        exact .inl ⟨call, call_eq, place_eq⟩
      · simp only [List.getElem?_concat_length, Option.some.injEq] at place_eq
        exact .inr ⟨rfl, rfl, place_eq.symm⟩
      · rw [List.getElem?_eq_none (by simp; omega)] at place_eq
        cases place_eq
    · simp only [List.getElem?_set_ne same] at found_eq
      exact .inl ⟨found, found_eq, place_eq⟩
  constructor
  · intro other hop place owned
    rw [List.length_append]
    rcases owns_cases owned with before | ⟨_, _, rfl⟩
    · exact Nat.lt_succ_of_lt (apart.inside before)
    · exact Nat.lt_succ_self _
  · intro first hop second later place owned further
    rcases owns_cases owned with before | ⟨rfl, rfl, rfl⟩
    · rcases owns_cases further with also | ⟨rfl, rfl, rfl⟩
      · exact apart.distinct before also
      · exact absurd (apart.inside before) (Nat.lt_irrefl _)
    · rcases owns_cases further with also | ⟨rfl, rfl, _⟩
      · exact absurd (apart.inside also) (Nat.lt_irrefl _)
      · exact ⟨rfl, rfl⟩

theorem World.apart_turn {world next : World α} {move : Move} (apart : world.Apart)
    (turn : world.Turn move next) : next.Apart := by
  cases turn with
  | report call_eq =>
    exact apart.same_places (Nat.le_refl _) (World.owns_set_iff call_eq (by rfl))
  | send call_eq => exact apart.send call_eq
  | store metadata owned => exact apart.same_places (by simp) Iff.rfl
  | answer outcome call_eq slot_eq =>
    exact apart.same_places (by simp) (World.owns_set_iff call_eq (by rfl))

/-! ## Faithfulness -/

theorem Faithful.frame {flow : Flow α} {inbox : Inbox} {slots others : List Slot} {call : Call α}
    (faithful : Faithful flow inbox slots call)
    (same : ∀ {hop place}, hop = inbox.answers.length → call.places[hop]? = some place →
      others[place]? = slots[place]?) : Faithful flow inbox others call := by
  cases faithful with
  | running play_eq places_eq sent_eq pending_eq =>
    exact .running play_eq places_eq sent_eq pending_eq
  | waiting play_eq places_eq sent_eq place_eq slot_eq =>
    exact .waiting play_eq places_eq sent_eq place_eq ((same rfl place_eq).trans slot_eq)

theorem Faithful.report {flow next : Flow α} {event : Event} {inbox : Inbox} {slots : List Slot}
    {places : List Nat} {sent : List (Slot × Http.Request)} {events : List Event}
    (faithful : Faithful flow inbox slots ⟨.running (.report event next), places, sent, events⟩) :
    Faithful flow inbox slots ⟨.running next, places, sent, events ++ [event]⟩ := by
  cases faithful with
  | running play_eq places_eq sent_eq pending_eq =>
    refine .running (fun answers => ?_) places_eq sent_eq pending_eq
    rw [play_eq, Flow.play_report]
    simp [Run.behind]

theorem Faithful.send {flow : Flow α} {slot : Slot} {request : Http.Request}
    {next : Reply → Flow α} {inbox : Inbox} {slots : List Slot} {places : List Nat}
    {sent : List (Slot × Http.Request)} {events : List Event}
    (faithful : Faithful flow inbox slots
      ⟨.running (.send slot request next), places, sent, events⟩) :
    Faithful flow inbox (slots ++ [slot])
      ⟨.waiting slots.length next, places ++ [slots.length], sent ++ [(slot, request)],
        events⟩ := by
  cases faithful with
  | running play_eq places_eq sent_eq pending_eq =>
    have slot_eq : (slots ++ [slot])[slots.length]? = some (inbox.slot slot) := by
      rw [List.getElem?_concat_length, Inbox.slot, pending_eq]
    refine .waiting (fun answers => ?_) ?_ ?_ ?_ slot_eq
    · rw [play_eq, Flow.play_send]
      simp [Run.behind]
    · rw [List.length_append, places_eq]
      rfl
    · rw [List.length_append, List.length_append, sent_eq]
      rfl
    · rw [← places_eq]
      exact List.getElem?_concat_length

theorem Faithful.answer {flow : Flow α} {place : Nat} {next : Reply → Flow α} {inbox : Inbox}
    {slots others : List Slot} {found : Slot} {places : List Nat}
    {sent : List (Slot × Http.Request)} {events : List Event}
    (faithful : Faithful flow inbox slots ⟨.waiting place next, places, sent, events⟩)
    (found_eq : slots[place]? = some found) (outcome : Except TransportFault Http.Response) :
    Faithful flow ⟨inbox.answers ++ [⟨inbox.pending, outcome⟩], none⟩ others
      ⟨.running (next ⟨found, outcome⟩), places, sent, events⟩ := by
  cases faithful with
  | @waiting _ _ _ _ _ slot play_eq places_eq sent_eq place_eq slot_eq =>
    rw [found_eq, Option.some.injEq] at slot_eq
    refine .running (fun answers => ?_) ?_ sent_eq rfl
    · rw [List.append_assoc, play_eq, slot_eq]
      rfl
    · rw [List.length_append, places_eq]
      rfl

theorem Faithful.store {flow : Flow α} {inbox : Inbox} {slots : List Slot} {call : Call α}
    {hop place : Nat} (faithful : Faithful flow inbox slots call)
    (place_eq : call.places[hop]? = some place) (metadata : Metadata)
    (distinct : ∀ {later}, call.places[later]? = some place → hop = later) :
    Faithful flow (if hop = inbox.answers.length then { inbox with pending := some metadata }
      else inbox) (slots.modify place (·.store metadata)) call := by
  cases faithful with
  | running play_eq places_eq sent_eq pending_eq =>
    -- All that it has sent is answered, so whatever is stored comes too late.
    have inside := (List.getElem?_eq_some_iff.1 place_eq).1
    rw [if_neg (by rw [← places_eq]; exact Nat.ne_of_lt inside)]
    exact .running play_eq places_eq sent_eq pending_eq
  | @waiting last _ _ _ _ slot play_eq places_eq sent_eq last_eq slot_eq =>
    by_cases current : hop = inbox.answers.length
    · rw [if_pos current]
      rw [current, last_eq, Option.some.injEq] at place_eq
      subst place_eq
      have stored_eq : (slots.modify last (·.store metadata))[last]? =
          some (Inbox.slot { inbox with pending := some metadata } slot) := by
        rw [List.getElem?_modify_eq, slot_eq]
        rfl
      exact .waiting play_eq places_eq sent_eq last_eq stored_eq
    · -- It comes too late, for a request that has been answered.
      rw [if_neg current]
      refine .waiting play_eq places_eq sent_eq last_eq ?_
      have elsewhere : place ≠ last := fun same => current (distinct (same ▸ last_eq))
      rw [List.getElem?_modify_ne _ _ elsewhere]
      exact slot_eq

/-- What another flow sees of its slots does not change with a place that it does not own. -/
theorem Faithful.elsewhere {world : World α} (apart : world.Apart) {flow : Flow α} {inbox : Inbox}
    {index other hop place : Nat} {call : Call α} (call_eq : world.calls[other]? = some call)
    (owned : world.Owns index hop place) (different : index ≠ other)
    (faithful : Faithful flow inbox world.slots call) (change : Slot → Slot) :
    Faithful flow inbox (world.slots.modify place change) call := by
  refine faithful.frame fun {later own} _ own_eq => List.getElem?_modify_ne _ _ ?_
  rintro rfl
  exact different (apart.distinct owned ⟨call, call_eq, own_eq⟩).1

/-- A world in which one flow has gone on is sound if that flow stays faithful and nothing changes
for the others. -/
theorem World.Sound.set {flows : List (Flow α)} {inboxes told : Nat → Inbox} {world : World α}
    {slots : List Slot} {acting : Nat} {before after : Call α} (sound : world.Sound flows inboxes)
    (apart : World.Apart ⟨slots, world.calls.set acting after⟩)
    (before_eq : world.calls[acting]? = some before)
    (own : ∀ {flow}, Faithful flow (inboxes acting) world.slots before →
      Faithful flow (told acting) slots after)
    (others : ∀ {index flow call}, acting ≠ index → world.calls[index]? = some call →
      Faithful flow (inboxes index) world.slots call → Faithful flow (told index) slots call) :
    World.Sound flows told ⟨slots, world.calls.set acting after⟩ := by
  refine ⟨apart, by simpa using sound.length_eq, fun {index flow call} flow_eq call_eq => ?_⟩
  by_cases same : acting = index
  · subst same
    have inside := (List.getElem?_eq_some_iff.1 before_eq).1
    simp only [List.getElem?_set_self inside, Option.some.injEq] at call_eq
    subst call_eq
    exact own (sound.faithful flow_eq before_eq)
  · simp only [List.getElem?_set_ne same] at call_eq
    exact others same call_eq (sound.faithful flow_eq call_eq)

/-- Every turn leaves all flows faithful. -/
theorem World.sound_turn {flows : List (Flow α)} {inboxes : Nat → Inbox} {world next : World α}
    {move : Move} (sound : world.Sound flows inboxes) (turn : world.Turn move next) :
    next.Sound flows fun index => (inboxes index).tell index move := by
  have apart := World.apart_turn sound.apart turn
  cases turn with
  | report acting_eq => exact sound.set apart acting_eq Faithful.report fun _ _ faithful => faithful
  | send acting_eq =>
    refine sound.set apart acting_eq Faithful.send fun {index _ call} _ call_eq faithful => ?_
    refine faithful.frame fun {hop place} _ place_eq => ?_
    exact List.getElem?_append_left (sound.apart.inside ⟨call, call_eq, place_eq⟩)
  | @store acting hop place metadata owned =>
    refine ⟨apart, sound.length_eq, fun {index flow call} flow_eq call_eq => ?_⟩
    by_cases same : acting = index
    · subst same
      obtain ⟨own, own_eq, place_eq⟩ := owned
      rw [call_eq, Option.some.injEq] at own_eq
      subst own_eq
      simp only [Inbox.tell, true_and]
      exact (sound.faithful flow_eq call_eq).store place_eq metadata fun later_eq =>
        (sound.apart.distinct ⟨call, call_eq, place_eq⟩ ⟨call, call_eq, later_eq⟩).2
    · simp only [Inbox.tell, same, false_and, if_false]
      exact (sound.faithful flow_eq call_eq).elsewhere sound.apart call_eq owned same _
  | @answer acting place rest places sent events slot outcome acting_eq slot_eq =>
    refine sound.set apart acting_eq (fun faithful => ?_)
      fun {index _ call} other call_eq faithful => ?_
    · simp only [Inbox.tell, if_true]
      exact faithful.answer slot_eq outcome
    · simp only [Inbox.tell, if_neg other]
      -- The slot that is emptied belongs to the flow that acts, which waits for it.
      have inside := (List.getElem?_eq_some_iff.1 acting_eq).1
      obtain ⟨own, own_eq⟩ : ∃ own, flows[acting]? = some own :=
        ⟨_, List.getElem?_eq_getElem (sound.length_eq ▸ inside)⟩
      cases sound.faithful own_eq acting_eq with
      | waiting _ _ _ place_eq _ =>
        exact faithful.elsewhere sound.apart call_eq ⟨_, acting_eq, place_eq⟩ other _

/-- So do turns in any order. -/
theorem World.sound_run {flows : List (Flow α)} {inboxes : Nat → Inbox} {world last : World α}
    {moves : List Move} (sound : world.Sound flows inboxes) (ran : world.run moves = some last) :
    last.Sound flows fun index => moves.foldl (Inbox.tell index) (inboxes index) := by
  induction moves generalizing world inboxes with
  | nil =>
    cases ran
    exact sound
  | cons move moves ih =>
    obtain ⟨next, stepped, ran⟩ := Option.bind_eq_some_iff.1 ran
    exact ih (World.sound_turn sound (World.turn_of_step stepped)) ran

/-- A flow among others, whatever turns are taken, sends and reports the beginning of what it sends
and reports alone against the answers that it is given, and all of it once it has ended.  Then it
has been given an answer to each of its requests. -/
theorem World.isolated {flows : List (Flow α)} {moves : List Move} {last : World α}
    (ran : (World.start flows).run moves = some last) {index : Nat} {flow : Flow α}
    (flow_eq : flows[index]? = some flow) :
    ∃ call, last.calls[index]? = some call ∧
      let alone := flow.play (received index moves)
      call.sent <+: alone.sent ∧ call.events <+: alone.events ∧
        ∀ result, call.result? = some result →
          alone = ⟨result, call.events, call.sent, []⟩ ∧
            (received index moves).length = call.sent.length := by
  have sound := World.sound_run (World.sound_start flows) ran
  have inside : index < last.calls.length := by
    rw [sound.length_eq]
    exact (List.getElem?_eq_some_iff.1 flow_eq).1
  have call_eq := List.getElem?_eq_getElem inside
  refine ⟨_, call_eq, ?_⟩
  generalize last.calls[index] = call at call_eq
  have answers_eq : received index moves = (moves.foldl (Inbox.tell index) {}).answers ++ [] := by
    rw [List.append_nil, received]
  simp only [answers_eq]
  cases sound.faithful flow_eq call_eq with
  | running play_eq places_eq sent_eq =>
    rw [play_eq]
    refine ⟨List.prefix_append _ _, List.prefix_append _ _, fun result result_eq => ?_⟩
    simp only [Call.result?] at result_eq
    split at result_eq
    next ended =>
      cases ended
      cases result_eq
      rw [List.append_nil]
      exact ⟨by simp [Run.behind], (sent_eq.trans places_eq).symm⟩
    next => cases result_eq
  | waiting play_eq =>
    rw [play_eq]
    refine ⟨List.prefix_append _ _, List.prefix_append _ _, fun result result_eq => ?_⟩
    cases result_eq

/-- What has been done by a flow that has ended, one of the flows does alone. -/
theorem World.ended_alone {flows : List (Flow α)} {moves : List Move} {last : World α}
    (ran : (World.start flows).run moves = some last) {call : Call α} (member : call ∈ last.calls)
    {result : α} (result_eq : call.result? = some result) :
    ∃ flow ∈ flows, ∃ answers, flow.play answers = ⟨result, call.events, call.sent, []⟩ := by
  obtain ⟨index, inside, rfl⟩ := List.getElem_of_mem member
  have length_eq := (World.sound_run (World.sound_start flows) ran).length_eq
  have flow_eq := List.getElem?_eq_getElem (length_eq ▸ inside)
  obtain ⟨call, call_eq, -, -, alone⟩ := World.isolated ran flow_eq
  rw [List.getElem?_eq_getElem inside, Option.some.injEq] at call_eq
  rw [call_eq] at result_eq ⊢
  obtain ⟨run_eq, -⟩ := alone result result_eq
  exact ⟨_, List.getElem_mem _, _, run_eq⟩

end SignIn
