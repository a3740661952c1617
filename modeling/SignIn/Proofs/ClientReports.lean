import SignIn.Client
import SignIn.Proofs.Isolation
import SignIn.Proofs.SlotUses

/-!
# What the client reports

The client leaves in the slot what the head of its own answer tells, and nothing where no head has
arrived.  Flows that send through the client over a network are blamed accordingly: a failure tells
the status of the answer that failed, and of no answer before it.
-/

namespace SignIn

namespace Client

/-! ## Calls -/

/-- A head arrives in answer to a request, and after it a body, unless reading it fails. -/
def Arrives (deliver : Http.Request → Delivery) (request : Http.Request) (status : Http.Status)
    (fields : Http.Fields) (body : Except String Bytes) : Prop :=
  canSend request = true ∧ deliver request = .answered status fields body

/-- A request is sent, and no head arrives. -/
def Loses (deliver : Http.Request → Delivery) (request : Http.Request) (cause : String) : Prop :=
  canSend request = true ∧ deliver request = .lost cause

/-- How long a head asks to wait. -/
def hint (now : Moment) (status : Http.Status) (fields : Http.Fields) : Option Duration :=
  RetryAfter.ofMessage now (Http.Response.message ⟨.http11, status, fields, []⟩)

/-- What becomes of a head with its body. -/
def received (status : Http.Status) (fields : Http.Fields) :
    Except String Bytes → Except TransportFault Http.Response
  | .ok bytes => .ok ⟨.http11, status, fields, bytes⟩
  | .error cause => .error (.network none cause)

section

variable {now : Moment} {deliver : Http.Request → Delivery} {request : Http.Request}
  {status : Http.Status} {fields : Http.Fields} {body : Except String Bytes} {cause : String}

theorem call_of_not_canSend (unsendable : canSend request = false) (slot : Slot) :
    call now deliver slot request = ⟨.empty, .error (.builder (refusal request))⟩ := by
  simp [call, unsendable, Slot.take]

theorem call_of_loses (loses : Loses deliver request cause) (slot : Slot) :
    call now deliver slot request = ⟨.empty, .error (.network none cause)⟩ := by
  simp [call, loses.1, loses.2, Slot.take]

theorem call_of_arrives (arrives : Arrives deliver request status fields body) (slot : Slot) :
    call now deliver slot request =
      ⟨⟨some ⟨some status.code, hint now status fields⟩⟩, received status fields body⟩ := by
  simp only [call, arrives.1, arrives.2, if_true]
  cases body <;> rfl

theorem Arrives.unique {other_status : Http.Status} {other_fields : Http.Fields}
    {other_body : Except String Bytes} (arrives : Arrives deliver request status fields body)
    (other : Arrives deliver request other_status other_fields other_body) :
    status = other_status ∧ fields = other_fields ∧ body = other_body := by
  cases arrives.2.symm.trans other.2
  exact ⟨rfl, rfl, rfl⟩

end

/-- What can come of a call, whatever was in the slot. -/
inductive Comes (now : Moment) (deliver : Http.Request → Delivery) (request : Http.Request) :
    Reply → Prop where
  /-- The client refuses the request. -/
  | refused (unsendable : canSend request = false) :
      Comes now deliver request ⟨.empty, .error (.builder (refusal request))⟩
  /-- No head arrives. -/
  | lost {cause : String} (loses : Loses deliver request cause) :
      Comes now deliver request ⟨.empty, .error (.network none cause)⟩
  /-- A head arrives, but its body fails. -/
  | cut {status : Http.Status} {fields : Http.Fields} {cause : String}
      (arrives : Arrives deliver request status fields (.error cause)) :
      Comes now deliver request
        ⟨⟨some ⟨some status.code, hint now status fields⟩⟩, .error (.network none cause)⟩
  /-- A head arrives with its body. -/
  | whole {status : Http.Status} {fields : Http.Fields} {bytes : Bytes}
      (arrives : Arrives deliver request status fields (.ok bytes)) :
      Comes now deliver request
        ⟨⟨some ⟨some status.code, hint now status fields⟩⟩, .ok ⟨.http11, status, fields, bytes⟩⟩

theorem comes_call (now : Moment) (deliver : Http.Request → Delivery) (slot : Slot)
    (request : Http.Request) : Comes now deliver request (call now deliver slot request) := by
  cases sendable : canSend request with
  | false =>
    rw [call_of_not_canSend sendable]
    exact .refused sendable
  | true =>
    cases delivered : deliver request with
    | lost cause =>
      have loses : Loses deliver request cause := ⟨sendable, delivered⟩
      rw [call_of_loses loses]
      exact .lost loses
    | answered status fields body =>
      have arrives : Arrives deliver request status fields body := ⟨sendable, delivered⟩
      rw [call_of_arrives arrives]
      cases body with
      | error cause => exact .cut arrives
      | ok bytes => exact .whole arrives

/-- A reply tells of the head that has arrived, and of nothing else. -/
structure ReportsHead (now : Moment) (deliver : Http.Request → Delivery) (request : Http.Request)
    (reply : Reply) : Prop where
  /-- The slot is empty exactly if no head has arrived. -/
  empty_iff : reply.slot = .empty ↔
    ¬∃ status fields body, Arrives deliver request status fields body
  /-- Otherwise it tells the status of that head and how long it asks to wait, whatever becomes of
  the body. -/
  content : ∀ status fields body, Arrives deliver request status fields body →
    reply.slot.content = some ⟨some status.code, hint now status fields⟩

theorem Comes.reportsHead {now : Moment} {deliver : Http.Request → Delivery}
    {request : Http.Request} {reply : Reply} (comes : Comes now deliver request reply) :
    ReportsHead now deliver request reply := by
  cases comes with
  | refused unsendable =>
    have silent {status fields body} : ¬Arrives deliver request status fields body := by
      simp [Arrives, unsendable]
    exact ⟨by simp [silent], fun _ _ _ arrives => (silent arrives).elim⟩
  | lost loses =>
    have silent {status fields body} : ¬Arrives deliver request status fields body := by
      simp [Arrives, loses.2]
    exact ⟨by simp [silent], fun _ _ _ arrives => (silent arrives).elim⟩
  | cut arrives | whole arrives =>
    refine ⟨iff_of_false (by simp [Slot.empty]) (not_not_intro ⟨_, _, _, arrives⟩), ?_⟩
    intro _ _ _ other
    obtain ⟨rfl, rfl, -⟩ := arrives.unique other
    rfl

/-! ## Networks -/

/-- What a network makes of a request, and when. -/
structure Occasion where
  /-- The moment at which the head of an answer arrives, if one arrives. -/
  now : Moment
  /-- What becomes of the request. -/
  deliver : Http.Request → Delivery

namespace Occasion

/-- The call on an occasion. -/
def call (occasion : Occasion) (slot : Slot) (request : Http.Request) : Reply :=
  Client.call occasion.now occasion.deliver slot request

theorem comes_call (occasion : Occasion) (slot : Slot) (request : Http.Request) :
    Comes occasion.now occasion.deliver request (occasion.call slot request) :=
  Client.comes_call ..

/-- The answer that the client makes of an occasion. -/
def answer (occasion : Occasion) (request : Http.Request) : Answer :=
  ⟨(occasion.call .empty request).slot.content, (occasion.call .empty request).outcome⟩

@[simp]
theorem reply_answer (occasion : Occasion) (request : Http.Request) :
    (occasion.answer request).reply .empty = occasion.call .empty request := by
  unfold answer
  generalize occasion.call .empty request = reply
  obtain ⟨⟨content⟩, outcome⟩ := reply
  cases content <;> rfl

theorem answer_of_loses {occasion : Occasion} {request : Http.Request} {cause : String}
    (loses : Loses occasion.deliver request cause) :
    occasion.answer request = ⟨none, .error (.network none cause)⟩ := by
  rw [answer, call, call_of_loses loses]
  rfl

theorem answer_of_arrives {occasion : Occasion} {request : Http.Request} {status : Http.Status}
    {fields : Http.Fields} {body : Except String Bytes}
    (arrives : Arrives occasion.deliver request status fields body) :
    occasion.answer request =
      ⟨some ⟨some status.code, hint occasion.now status fields⟩, received status fields body⟩ := by
  rw [answer, call, call_of_arrives arrives]

end Occasion

/-- The answers that the client makes of a network to requests behind a number of others. -/
def answersTo (network : Nat → Occasion) (before : Nat) (requests : List Http.Request) :
    List Answer :=
  requests.mapIdx fun index request => (network (before + index)).answer request

theorem getElem?_answersTo (network : Nat → Occasion) (before : Nat)
    (requests : List Http.Request) (index : Nat) :
    (answersTo network before requests)[index]? =
      (requests[index]?).map (network (before + index)).answer :=
  List.getElem?_mapIdx ..

theorem answersTo_cons (network : Nat → Occasion) (before : Nat) (request : Http.Request)
    (requests : List Http.Request) :
    answersTo network before (request :: requests) =
      (network before).answer request :: answersTo network (before + 1) requests := by
  simp [answersTo, List.mapIdx_cons, Nat.add_assoc, Nat.add_comm 1]

/-- Send a request over a network after others, on the occasion that is next. -/
def send (network : Nat → Occasion) (slot : Slot) (request : Http.Request) :
    StateM (List Http.Request) Reply := do
  let sent ← get
  set (sent ++ [request])
  return (network sent.length).call slot request

/-- Run a flow that sends through the client, after requests that have been sent: its result, and
all requests in order. -/
def carry {α : Type} (network : Nat → Occasion) (flow : Flow α) (sent : List Http.Request) :
    α × List Http.Request :=
  (flow.interpret (send network) fun _ => pure ()).run sent

section

variable {α β : Type} (network : Nat → Occasion)

@[simp]
theorem carry_done (result : α) (sent : List Http.Request) :
    carry network (.done result) sent = (result, sent) := rfl

@[simp]
theorem carry_report (event : Event) (next : Flow α) (sent : List Http.Request) :
    carry network (.report event next) sent = carry network next sent := rfl

@[simp]
theorem carry_send (slot : Slot) (request : Http.Request) (next : Reply → Flow α)
    (sent : List Http.Request) :
    carry network (.send slot request next) sent =
      carry network (next ((network sent.length).call slot request)) (sent ++ [request]) := rfl

theorem carry_bind (flow : Flow α) (next : α → Flow β) (sent : List Http.Request) :
    carry network (flow.bind next) sent =
      carry network (next (carry network flow sent).1) (carry network flow sent).2 := by
  induction flow generalizing sent with
  | done result => rfl
  | report event rest ih => exact ih sent
  | send slot request rest ih => exact ih _ _

/-- A flow that sends only empty slots is carried as it is played, against the answers that the
client makes of the network. -/
theorem carry_eq_play {flow : Flow α}
    (fresh : ∀ answers, ∀ handed ∈ (flow.play answers).sent, handed.1 = .empty)
    (sent : List Http.Request) :
    ∃ requests,
      let run := flow.play (answersTo network sent.length requests)
      run.sent = requests.map (Prod.mk Slot.empty) ∧
        carry network flow sent = (run.result, sent ++ requests) := by
  induction flow generalizing sent with
  | done result => exact ⟨[], rfl, by simp⟩
  | report event next ih => exact ih fresh sent
  | send slot request next ih =>
    obtain rfl : slot = .empty := fresh [] (slot, request) (List.mem_cons_self ..)
    -- What the client makes of the first request comes in front of the answers to the others.
    let answer := (network sent.length).answer request
    have later (answers) : ∀ handed ∈ ((next (answer.reply .empty)).play answers).sent,
        handed.1 = .empty := fun handed member =>
      fresh (answer :: answers) handed (List.mem_cons_of_mem _ member)
    obtain ⟨requests, sent_eq, carry_eq⟩ := ih _ later (sent ++ [request])
    rw [List.length_append, List.length_singleton] at sent_eq carry_eq
    refine ⟨request :: requests, ?_⟩
    rw [answersTo_cons, Flow.play_send]
    refine ⟨congrArg _ sent_eq, ?_⟩
    rw [carry_send, ← Occasion.reply_answer, carry_eq, List.append_assoc]
    rfl

end

/-! ## Round trips -/

/-- A round trip is blamed with the status of its own answer, if it is blamed with a status. -/
structure ReportsDispatch (occasion : Occasion) (hop : Hop) (request : Http.Request)
    (result : Except Error (Http.Response × Option Metadata)) : Prop where
  /-- A request that the client refuses is blamed on the configuration. -/
  refused : canSend request = false →
    result = .error (.config (.clientBuild (refusal request)))
  /-- Where no head arrives, no status is told. -/
  loses : ∀ cause, Loses occasion.deliver request cause →
    result = .error (.provider (.transport (.network hop none cause)))
  /-- Where the body fails, the status of the head is told. -/
  cut : ∀ status fields cause, Arrives occasion.deliver request status fields (.error cause) →
    result = .error (.provider (.transport (.network hop (some status.code) cause)))
  /-- An answer comes with what its own head tells. -/
  whole : ∀ status fields bytes, Arrives occasion.deliver request status fields (.ok bytes) →
    result = .ok (⟨.http11, status, fields, bytes⟩,
      some ⟨some status.code, hint occasion.now status fields⟩)

section

variable {α : Type} (network : Nat → Occasion)

theorem carry_dispatch (hop : Hop) (request : Http.Request) (sent : List Http.Request) :
    ReportsDispatch (network sent.length) hop request
      (carry network (Exchange.dispatch hop request) sent).1 := by
  rw [Exchange.dispatch, carry_send, carry_done, Occasion.call]
  constructor
  · intro unsendable
    rw [call_of_not_canSend unsendable]
    rfl
  · intro cause loses
    rw [call_of_loses loses]
    rfl
  · intro status fields cause arrives
    rw [call_of_arrives arrives]
    rfl
  · intro status fields bytes arrives
    rw [call_of_arrives arrives]
    rfl

/-- A token that comes with another status than that of a success is refused, with what the head of
that answer says. -/
theorem carry_token {url : Url} {form : List (String × String)} {request : Http.Request}
    (request_eq : Exchange.formRequest url form = .ok request) (sent : List Http.Request)
    {status : Http.Status} {fields : Http.Fields} {bytes : Bytes}
    (arrives : Arrives (network sent.length).deliver request status fields (.ok bytes))
    (status_ne : status ≠ .ok) :
    (carry network (Exchange.token url form) sent).1 =
      .error (.provider (.status .token status.code (Exchange.preview bytes)
        (hint (network sent.length).now status fields))) := by
  simp only [Exchange.token, request_eq, carry_bind, carry_done,
    (carry_dispatch network .token request sent).whole _ _ _ arrives, Exchange.tokenOf,
    if_neg status_ne, Option.bind_some]

end

/-! ## Logins -/

theorem Comes.blames {now : Moment} {deliver : Http.Request → Delivery} {request : Http.Request}
    {reply : Reply} (comes : Comes now deliver request reply) {fault : TransportFault}
    (outcome_eq : reply.outcome = .error fault) {hop : Hop} {error : TransportError}
    (error_eq : fault.error hop reply.slot.content = .provider (.transport error)) :
    (∃ cause, Loses deliver request cause ∧ error = .network hop none cause) ∨
      ∃ status fields cause, Arrives deliver request status fields (.error cause) ∧
        error = .network hop (some status.code) cause := by
  cases comes with
  | refused unsendable =>
    cases outcome_eq
    cases error_eq
  | lost loses =>
    cases outcome_eq
    cases error_eq
    exact .inl ⟨_, loses, rfl⟩
  | cut arrives =>
    cases outcome_eq
    cases error_eq
    exact .inr ⟨_, _, _, arrives, rfl⟩
  | whole arrives => cases outcome_eq

theorem Comes.answers {now : Moment} {deliver : Http.Request → Delivery} {request : Http.Request}
    {reply : Reply} (comes : Comes now deliver request reply) {response : Http.Response}
    (outcome_eq : reply.outcome = .ok response) :
    ∃ status fields bytes, Arrives deliver request status fields (.ok bytes) ∧
      response = ⟨.http11, status, fields, bytes⟩ ∧
        reply.slot.content = some ⟨some status.code, hint now status fields⟩ := by
  cases comes with
  | refused | lost | cut => cases outcome_eq
  | whole arrives =>
    cases outcome_eq
    exact ⟨_, _, _, arrives, rfl, rfl⟩

/-- A login blames an answer with what the head of that very answer told. -/
structure BlamesOwnAnswer (network : Nat → Occasion) (result : Except Error Identity)
    (sent : List Http.Request) : Prop where
  /-- Where no head arrives, no status is told. -/
  loses : ∀ index request cause, sent[index]? = some request →
    Loses (network index).deliver request cause →
      result = .error (.provider (.transport (.network (Google.hopAt index) none cause)))
  /-- Where the body fails, the status of the head is told. -/
  cut : ∀ index request status fields cause, sent[index]? = some request →
    Arrives (network index).deliver request status fields (.error cause) →
      result = .error (.provider (.transport
        (.network (Google.hopAt index) (some status.code) cause)))
  /-- No other fault of the transport is told. -/
  transport : ∀ error, result = .error (.provider (.transport error)) →
    ∃ index request, sent[index]? = some request ∧
      ((∃ cause, Loses (network index).deliver request cause ∧
        error = .network (Google.hopAt index) none cause) ∨
      ∃ status fields cause,
        Arrives (network index).deliver request status fields (.error cause) ∧
          error = .network (Google.hopAt index) (some status.code) cause)
  /-- A token with another status than that of a success is refused with what its head told. -/
  refuses : ∀ request status fields bytes, sent[0]? = some request →
    Arrives (network 0).deliver request status fields (.ok bytes) → status ≠ .ok →
      result = .error (.provider (.status .token status.code (Exchange.preview bytes)
        (hint (network 0).now status fields)))
  /-- No other status is told. -/
  status : ∀ hop code body wait, result = .error (.provider (.status hop code body wait)) →
    hop = .token ∧ ∃ request status fields bytes, sent[0]? = some request ∧
      Arrives (network 0).deliver request status fields (.ok bytes) ∧ code = status.code ∧
        wait = hint (network 0).now status fields

theorem blamesOwnAnswer_of_course {network : Nat → Occasion} {registration : Registration}
    {message : Message} {requests : List Http.Request} {run : Run (Except Error Identity)}
    (way : Google.Course registration message (answersTo network 0 requests) run)
    (length_eq : run.sent.length = requests.length) :
    BlamesOwnAnswer network run.result requests := by
  have asked {index : Nat} {request : Http.Request} (request_eq : requests[index]? = some request) :
      index < run.sent.length := by
    rw [length_eq]
    exact (List.getElem?_eq_some_iff.1 request_eq).1
  have answered {index : Nat} {request : Http.Request}
      (request_eq : requests[index]? = some request) :
      (answersTo network 0 requests)[index]? = some ((network index).answer request) := by
    rw [getElem?_answersTo, request_eq, Nat.zero_add, Option.map_some]
  have comes {index : Nat} {metadata : Option Metadata}
      {outcome : Except TransportFault Http.Response}
      (answer_eq : (answersTo network 0 requests)[index]? = some ⟨metadata, outcome⟩) :
      ∃ request, requests[index]? = some request ∧
        Comes (network index).now (network index).deliver request ⟨⟨metadata⟩, outcome⟩ := by
    rw [getElem?_answersTo, Nat.zero_add, Option.map_eq_some_iff] at answer_eq
    obtain ⟨request, request_eq, made⟩ := answer_eq
    cases made
    exact ⟨request, request_eq, (network index).comes_call .empty request⟩
  have enough : (answersTo network 0 requests).length = run.sent.length := by
    rw [length_eq, answersTo, List.length_mapIdx]
  constructor
  · intro index request cause request_eq loses
    have answer_eq := answered request_eq
    rw [Occasion.answer_of_loses loses] at answer_eq
    exact way.fault answer_eq (way.last_of_fault answer_eq (asked request_eq))
  · intro index request status fields cause request_eq arrives
    have answer_eq := answered request_eq
    rw [Occasion.answer_of_arrives arrives] at answer_eq
    exact way.fault answer_eq (way.last_of_fault answer_eq (asked request_eq))
  · intro error failed
    obtain ⟨index, metadata, fault, -, answer_eq, error_eq⟩ := way.transport enough failed
    obtain ⟨request, request_eq, comes⟩ := comes answer_eq
    exact ⟨index, request, request_eq, comes.blames rfl error_eq⟩
  · intro request status fields bytes request_eq arrives rejected
    have answer_eq := answered request_eq
    rw [Occasion.answer_of_arrives arrives] at answer_eq
    exact way.refuses answer_eq rejected (asked request_eq)
  · intro hop code body wait failed
    obtain ⟨hop_eq, metadata, response, answer_eq, code_eq, wait_eq⟩ := way.status failed
    obtain ⟨request, request_eq, comes⟩ := comes answer_eq
    obtain ⟨status, fields, bytes, arrives, rfl, rfl⟩ := comes.answers rfl
    exact ⟨hop_eq, request, status, fields, bytes, request_eq, arrives, code_eq, wait_eq⟩

/-- Logins over a network blame answers with what their heads told. -/
theorem blamesOwnAnswer (network : Nat → Occasion) (registration : Registration)
    (message : Message) :
    let login := carry network (Google.enter registration message) []
    BlamesOwnAnswer network login.1 login.2 := by
  obtain ⟨requests, sent_eq, carry_eq⟩ := carry_eq_play network
    (fun answers => (Google.course registration message answers).sent_empty) []
  have length_eq := congrArg List.length sent_eq
  rw [List.length_map] at length_eq
  rw [carry_eq]
  exact blamesOwnAnswer_of_course (Google.course registration message _) length_eq

/-! ## All together -/

/-- The slot after a call tells of the call's own answer, whatever was in it before.  So do the
errors of a round trip behind any other flow, a refused token among them, and those of a login.  A
take finds what was stored in the last use of the slot, by whichever holder. -/
theorem client_reports_own_head :
    (∀ now deliver request slot, ReportsHead now deliver request (call now deliver slot request) ∧
      ∀ other, call now deliver other request = call now deliver slot request) ∧
    (∀ (network : Nat → Occasion) (α : Type) (first : Flow α) (next : α → Http.Request) hop,
      let before := carry network first []
      ReportsDispatch (network before.2.length) hop (next before.1)
        (carry network (first.bind fun found => Exchange.dispatch hop (next found)) []).1) ∧
    (∀ (network : Nat → Occasion) (α : Type) (first : Flow α) (url : α → Url)
        (form : α → List (String × String)) request status fields bytes,
      let before := carry network first []
      let occasion := network before.2.length
      Exchange.formRequest (url before.1) (form before.1) = .ok request →
      Arrives occasion.deliver request status fields (.ok bytes) → status ≠ .ok →
      (carry network (first.bind fun found => Exchange.token (url found) (form found)) []).1 =
        .error (.provider (.status .token status.code (Exchange.preview bytes)
          (hint occasion.now status fields)))) ∧
    (∀ network registration message,
      let login := carry network (Google.enter registration message) []
      BlamesOwnAnswer network login.1 login.2) ∧
    ∀ (shared : SharedSlots) holder uses metadata,
      ((shared.useAll uses).take holder).1 = some metadata ↔
        (∃ front user back, uses = front ++ (user, .store metadata) :: back ∧
          shared.Share user holder ∧ ∀ later ∈ back, ¬shared.Share later.1 holder) ∨
        (∀ use ∈ uses, ¬shared.Share use.1 holder) ∧ (shared.take holder).1 = some metadata := by
  refine ⟨fun now deliver request slot => ⟨(comes_call now deliver slot request).reportsHead,
    fun other => rfl⟩, ?_, ?_, blamesOwnAnswer, SharedSlots.take_useAll_eq_some_iff⟩
  · intro network α first next hop
    rw [carry_bind]
    exact carry_dispatch network hop _ _
  · intro network α first url form request status fields bytes before occasion request_eq arrives
      status_ne
    rw [carry_bind]
    exact carry_token network request_eq _ arrives status_ne

/-- In a slot with other metadata, a body fails after a head that asks to wait; a round trip is lost
behind that one; a token comes with the wrong status behind it; two holders of one slot. -/
theorem client_reports_own_head_stale :
    let now : Moment := ⟨0⟩
    let stale : Slot := ⟨some ⟨some 200, some (.ofSeconds 7)⟩⟩
    let answer (status : Nat) (wait : String) : Except Http.Fault Http.Response :=
      Http.Response.build status .http11 [("Retry-After", Utf8.encode wait.toList)] []
    ∃ url post busy created,
      Url.parse "https://accounts.example.com/token".toList = .ok url ∧
      Exchange.formRequest url [("code", "1")] = .ok post ∧
      answer 503 "120" = .ok busy ∧ answer 201 "5" = .ok created ∧
      let cut : Http.Request → Delivery :=
        fun _ => .answered busy.status busy.fields (.error "reset")
      let whole : Http.Request → Delivery :=
        fun _ => .answered created.status created.fields (.ok [0x7B])
      let network (last : Http.Request → Delivery) (index : Nat) : Occasion :=
        ⟨now, if index = 0 then cut else last⟩
      (call now cut stale post).slot.content = some ⟨some 503, some (.ofSeconds 120)⟩ ∧
      (carry (network fun _ => .lost "timed out") ((Exchange.dispatch .token post).bind fun _ =>
        Exchange.dispatch .profile post) []).1 =
          .error (.provider (.transport (.network .profile none "timed out"))) ∧
      (carry (network whole) ((Exchange.dispatch .token post).bind fun _ =>
        Exchange.token url [("code", "1")]) []).1 =
          .error (.provider (.status .token 201 "\x7b" (some (.ofSeconds 5)))) ∧
      (((SharedSlots.start.share 0).useAll
        [(0, .store ⟨some 200, none⟩), (1, .take), (1, .store ⟨some 503, none⟩)]).take 0).1 =
          some ⟨some 503, none⟩ := by
  intro now stale answer
  have built : ∃ url post busy created,
      Url.parse "https://accounts.example.com/token".toList = .ok url ∧
      Exchange.formRequest url [("code", "1")] = .ok post ∧
      answer 503 "120" = .ok busy ∧ answer 201 "5" = .ok created ∧
      canSend post = true ∧ busy.status.code = 503 ∧ created.status.code = 201 ∧
      hint now busy.status busy.fields = some (.ofSeconds 120) ∧
      hint now created.status created.fields = some (.ofSeconds 5) :=
    ⟨⟨"https".toList, some ⟨[], none, some (.name "accounts.example.com".toList), none⟩, false,
      .rooted ["token".toList], none, none⟩, _, _, _, by decide +kernel, rfl, rfl, rfl,
      by decide +kernel, rfl, rfl, by decide +kernel, by decide +kernel⟩
  obtain ⟨url, post, busy, created, url_eq, post_eq, busy_eq, created_eq, sendable, busy_code,
    created_code, busy_hint, created_hint⟩ := built
  have created_ne : created.status ≠ .ok := by
    intro status_eq
    rw [status_eq] at created_code
    cases created_code
  obtain ⟨calls, dispatches, tokens, -, takes⟩ := client_reports_own_head
  refine ⟨url, post, busy, created, url_eq, post_eq, busy_eq, created_eq, ?_⟩
  intro cut whole network
  refine ⟨?_, ?_, ?_, ?_⟩
  · rw [(calls now cut post stale).1.content _ _ _ ⟨sendable, rfl⟩, busy_code, busy_hint]
  · exact (dispatches (network fun _ => .lost "timed out") _ (Exchange.dispatch .token post)
      (fun _ => post) .profile).loses _ ⟨sendable, rfl⟩
  · have refused := tokens (network whole) _ (Exchange.dispatch .token post) (fun _ => url)
      (fun _ => [("code", "1")]) post created.status created.fields [0x7B] post_eq ⟨sendable, rfl⟩
      created_ne
    have preview_eq : Exchange.preview [0x7B] = "\x7b" := by decide +kernel
    rw [refused, created_code, preview_eq]
    exact congrArg _ (congrArg _ (congrArg _ created_hint))
  · refine (takes _ 0 [(0, .store ⟨some 200, none⟩), (1, .take), (1, .store ⟨some 503, none⟩)]
      _).2 (.inl ⟨[(0, .store ⟨some 200, none⟩), (1, .take)], 1, [], rfl, ⟨0, rfl, rfl⟩, ?_⟩)
    simp

end Client

end SignIn
