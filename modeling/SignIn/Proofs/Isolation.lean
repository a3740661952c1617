import SignIn.Proofs.Failures
import SignIn.Proofs.FlowSafety
import SignIn.Proofs.Interleaving

/-!
# Isolation of logins

Logins that go on at the same time do not affect each other, and within a login the metadata of one
answer does not affect what is made of the other.
-/

namespace SignIn

theorem TransportFault.error_ne_status (fault : TransportFault) (at_hop hop : Hop)
    (metadata : Option Metadata) (status : Nat) (body : String) (wait : Option Duration) :
    fault.error at_hop metadata ≠ .provider (.status hop status body wait) := by
  cases fault <;> simp [TransportFault.error]

namespace Google

/-! ## Replies -/

theorem firstReply_of_answered {answers : List Answer} {metadata : Option Metadata}
    {outcome : Except TransportFault Http.Response}
    (answered : answers[0]? = some ⟨metadata, outcome⟩) :
    firstReply answers = ⟨⟨metadata⟩, outcome⟩ := by
  cases answers with
  | nil => cases answered
  | cons answer answers =>
    cases answered
    cases metadata <;> rfl

theorem secondReply_of_answered {answers : List Answer} {metadata : Option Metadata}
    {outcome : Except TransportFault Http.Response}
    (answered : answers[1]? = some ⟨metadata, outcome⟩) :
    secondReply answers = ⟨⟨metadata⟩, outcome⟩ :=
  firstReply_of_answered (List.getElem?_tail ▸ answered)

/-- A login that asks for a token depends on its first answer only through that token. -/
theorem play_congr {registration : Registration} {message : Message} {code : String}
    {post : Http.Request} {answers others : List Answer}
    (code_eq : Callback.code message = .ok code)
    (post_eq : tokenRequest registration code = .ok post)
    (token_eq : tokenIn (firstReply answers) = tokenIn (firstReply others))
    (tail_eq : answers.tail = others.tail) :
    (enter registration message).play answers = (enter registration message).play others := by
  unfold firstReply at token_eq
  simp only [enter, authenticate, Flow.play_report, play_observe_done, code_eq, exchange_eq,
    play_observe_roundTrip, post_eq, token_eq, tail_eq]

/-! ## Metadata -/

/-- The round trip of a request, counted from zero. -/
def hopAt : Nat → Hop
  | 0 => .token
  | _ => .profile

/-- Answers of which the first one comes with other metadata. -/
def withMetadata (metadata : Option Metadata) (answers : List Answer) : List Answer :=
  answers.modifyHead fun answer => { answer with metadata }

/-- What a run says of metadata comes from the answer that failed. -/
structure OwnMetadata (registration : Registration) (message : Message) (answers : List Answer)
    (run : Run (Except Error Identity)) : Prop where
  /-- How long to wait is read off the metadata of the token's answer. -/
  status : ∀ hop status body wait, run.result = .error (.provider (.status hop status body wait)) →
    hop = .token ∧ ∃ metadata response, answers[0]? = some ⟨metadata, .ok response⟩ ∧
      status = response.status.code ∧ wait = metadata.bind (·.retryAfter)
  /-- A transport that fails is blamed with the metadata of its last answer. -/
  fault : ∀ index metadata fault, answers[index]? = some ⟨metadata, .error fault⟩ →
    run.sent.length = index + 1 → run.result = .error (fault.error (hopAt index) metadata)
  /-- No other transport is blamed. -/
  transport : ∀ error, run.result = .error (.provider (.transport error)) →
    ∃ index metadata fault, run.sent.length = index + 1 ∧
      answers[index]? = some ⟨metadata, .error fault⟩ ∧
        fault.error (hopAt index) metadata = .provider (.transport error)
  /-- Once the token is given, its metadata does not matter. -/
  passed : run.sent.length = 2 → ∀ metadata,
    (enter registration message).play (withMetadata metadata answers) = run

section

variable {registration : Registration} {message : Message} {answers : List Answer}
  {run : Run (Except Error Identity)}

theorem tokenIn_withMetadata {token : Secret} (metadata : Option Metadata)
    (token_eq : tokenIn (firstReply answers) = .ok token) :
    tokenIn (firstReply (withMetadata metadata answers)) = .ok token := by
  obtain ⟨response, rest, outcome_eq, accepted⟩ := tokenIn_eq_ok_iff.1 token_eq
  refine tokenIn_eq_ok_iff.2 ⟨response, rest, ?_, accepted⟩
  cases answers with
  | nil => exact outcome_eq
  | cons answer answers => exact outcome_eq

theorem Course.passed (way : Course registration message answers run)
    (asked : run.sent.length = 2) (metadata : Option Metadata) :
    (enter registration message).play (withMetadata metadata answers) =
      (enter registration message).play answers := by
  have tail_eq : (withMetadata metadata answers).tail = answers.tail := by
    cases answers <;> rfl
  cases way with
  | noCode | notAsked | noToken | notFetched => cases asked
  | noFields code_eq post_eq token_eq =>
    exact play_congr code_eq post_eq ((tokenIn_withMetadata metadata token_eq).trans token_eq.symm)
      tail_eq
  | parsed code_eq post_eq token_eq =>
    exact play_congr code_eq post_eq ((tokenIn_withMetadata metadata token_eq).trans token_eq.symm)
      tail_eq

/-- Only the answer to the first request is refused for its status. -/
theorem Course.token_refused (way : Course registration message answers run) {hop : Hop}
    {status : Nat} {body : String} {wait : Option Duration}
    (failed : run.result = .error (.provider (.status hop status body wait))) :
    run.sent.length = 1 ∧
      tokenIn (firstReply answers) = .error (.provider (.status hop status body wait)) := by
  rcases way.provider_error failed with refused | ⟨_, fields_eq⟩ | ⟨_, identity_eq⟩
  · exact refused
  · rcases fieldsIn_error fields_eq with ⟨fault, _, fault_eq⟩ | ⟨_, _, _, _, impossible⟩
    · exact absurd fault_eq.symm (fault.error_ne_status _ _ _ _ _ _)
    · cases impossible
  · rcases Profile.identityOf_error identity_eq with ⟨_, _, impossible⟩ | ⟨_, _, _, impossible⟩ |
      ⟨_, impossible⟩ <;> cases impossible

theorem Course.status (way : Course registration message answers run) {hop : Hop} {status : Nat}
    {body : String} {wait : Option Duration}
    (failed : run.result = .error (.provider (.status hop status body wait))) :
    hop = .token ∧ ∃ metadata response, answers[0]? = some ⟨metadata, .ok response⟩ ∧
      status = response.status.code ∧ wait = metadata.bind (·.retryAfter) := by
  rcases tokenIn_error (way.token_refused failed).2 with ⟨fault, _, fault_eq⟩ |
    ⟨response, outcome_eq, _, error_eq⟩ | ⟨_, _, _, _, impossible⟩
  · exact absurd fault_eq.symm (fault.error_ne_status _ _ _ _ _ _)
  · obtain ⟨metadata, answered⟩ := firstReply_outcome_iff.1 outcome_eq
    rw [firstReply_of_answered answered] at error_eq
    cases error_eq
    exact ⟨rfl, metadata, response, answered, rfl, rfl⟩
  · cases impossible

theorem Course.fault (way : Course registration message answers run) {index : Nat}
    {metadata : Option Metadata} {fault : TransportFault}
    (answered : answers[index]? = some ⟨metadata, .error fault⟩)
    (asked : run.sent.length = index + 1) :
    run.result = .error (fault.error (hopAt index) metadata) := by
  cases way with
  | noCode | notAsked => cases asked
  | noToken _ _ token_eq =>
    cases asked
    rw [firstReply_of_answered answered] at token_eq
    cases token_eq
    rfl
  | notFetched _ _ token_eq =>
    cases asked
    rw [firstReply_of_answered answered] at token_eq
    cases token_eq
  | noFields _ _ _ _ fields_eq =>
    cases asked
    rw [secondReply_of_answered answered] at fields_eq
    cases fields_eq
    rfl
  | parsed _ _ _ _ fields_eq =>
    cases asked
    rw [secondReply_of_answered answered] at fields_eq
    cases fields_eq

/-- Behind an answer that is a fault nothing more is sent. -/
theorem Course.last_of_fault (way : Course registration message answers run) {index : Nat}
    {metadata : Option Metadata} {fault : TransportFault}
    (answered : answers[index]? = some ⟨metadata, .error fault⟩)
    (asked : index < run.sent.length) : run.sent.length = index + 1 := by
  have first_error (token : Secret) (first : index = 0) :
      tokenIn (firstReply answers) ≠ .ok token := by
    subst first
    rw [firstReply_of_answered answered]
    exact nofun
  cases way with
  | noCode | notAsked => cases asked
  | noToken | notFetched =>
    rw [Nat.lt_one_iff.1 asked]
    rfl
  | noFields _ _ token_eq | parsed _ _ token_eq =>
    rcases Nat.lt_succ_iff_lt_or_eq.1 asked with first | rfl
    · exact absurd token_eq (first_error _ (Nat.lt_one_iff.1 first))
    · rfl

/-- A first answer with another status than that of a success is refused. -/
theorem Course.refuses (way : Course registration message answers run)
    {metadata : Option Metadata} {response : Http.Response}
    (answered : answers[0]? = some ⟨metadata, .ok response⟩) (rejected : response.status ≠ .ok)
    (asked : 0 < run.sent.length) :
    run.result = .error (.provider (.status .token response.status.code
      (Exchange.preview response.body) (metadata.bind (·.retryAfter)))) := by
  have refused : tokenIn (firstReply answers) = .error (.provider (.status .token
      response.status.code (Exchange.preview response.body) (metadata.bind (·.retryAfter)))) := by
    rw [firstReply_of_answered answered]
    exact if_neg rejected
  cases way with
  | noCode | notAsked => cases asked
  | noToken _ _ token_eq =>
    cases token_eq.symm.trans refused
    rfl
  | notFetched _ _ token_eq | noFields _ _ token_eq | parsed _ _ token_eq =>
    cases token_eq.symm.trans refused

theorem firstReply_fault {fault : TransportFault} (enough : answers ≠ [])
    (outcome_eq : (firstReply answers).outcome = .error fault) :
    ∃ metadata, answers[0]? = some ⟨metadata, .error fault⟩ ∧
      (firstReply answers).slot.content = metadata := by
  cases answers with
  | nil => exact absurd rfl enough
  | cons answer answers =>
    obtain ⟨metadata, outcome⟩ := answer
    cases outcome_eq
    exact ⟨metadata, rfl, Answer.reply_empty_content _⟩

theorem Course.transport (way : Course registration message answers run)
    (enough : answers.length = run.sent.length) {error : TransportError}
    (failed : run.result = .error (.provider (.transport error))) :
    ∃ index metadata fault, run.sent.length = index + 1 ∧
      answers[index]? = some ⟨metadata, .error fault⟩ ∧
        fault.error (hopAt index) metadata = .provider (.transport error) := by
  rcases way.provider_error failed with ⟨asked, token_eq⟩ | ⟨asked, fields_eq⟩ | ⟨_, identity_eq⟩
  · rcases tokenIn_error token_eq with ⟨fault, outcome_eq, fault_eq⟩ | ⟨_, _, _, impossible⟩ |
      ⟨_, _, _, _, impossible⟩
    · have some_answer : answers ≠ [] := List.ne_nil_of_length_eq_add_one (enough.trans asked)
      obtain ⟨metadata, answered, content_eq⟩ := firstReply_fault some_answer outcome_eq
      rw [content_eq] at fault_eq
      exact ⟨0, metadata, fault, asked, answered, fault_eq.symm⟩
    · cases impossible
    · cases impossible
  · rcases fieldsIn_error fields_eq with ⟨fault, outcome_eq, fault_eq⟩ | ⟨_, _, _, _, impossible⟩
    · have tail_length : answers.tail.length = 0 + 1 := by rw [List.length_tail, enough, asked]
      have some_answer := List.ne_nil_of_length_eq_add_one tail_length
      obtain ⟨metadata, answered, content_eq⟩ := firstReply_fault some_answer outcome_eq
      rw [List.getElem?_tail] at answered
      rw [secondReply, content_eq] at fault_eq
      exact ⟨1, metadata, fault, asked, answered, fault_eq.symm⟩
    · cases impossible
  · rcases Profile.identityOf_error identity_eq with ⟨_, _, impossible⟩ | ⟨_, _, _, impossible⟩ |
      ⟨_, impossible⟩ <;> cases impossible

theorem Course.sent_empty (way : Course registration message answers run) :
    ∀ handed ∈ run.sent, handed.1 = .empty := by
  cases way with
  | noCode | notAsked => simp
  | noToken | notFetched => simp
  | noFields | parsed => simp

end

theorem ownMetadata {registration : Registration} {message : Message} {answers : List Answer}
    (enough : answers.length = ((enter registration message).play answers).sent.length) :
    OwnMetadata registration message answers ((enter registration message).play answers) where
  status _ _ _ _ failed := (course registration message answers).status failed
  fault _ _ _ answered asked := (course registration message answers).fault answered asked
  transport _ failed := (course registration message answers).transport enough failed
  passed asked metadata := (course registration message answers).passed asked metadata

/-! ## Logins among others -/

/-- A login among others sends what it sends alone against the answers that it is given, always with
an empty slot, and ends as it does alone. -/
theorem logins_are_isolated {registration : Registration} {messages : List Message}
    {moves : List Move} {last : World (Except Error Identity)}
    (ran : (World.start (messages.map (enter registration))).run moves = some last) {index : Nat}
    {message : Message} (message_eq : messages[index]? = some message) :
    ∃ call, last.calls[index]? = some call ∧
      let answers := received index moves
      let alone := (enter registration message).play answers
      (∀ handed ∈ call.sent, handed.1 = .empty) ∧ call.sent <+: alone.sent ∧
        ∀ result, call.result? = some result →
          call.sent = alone.sent ∧ result = alone.result ∧ answers.length = call.sent.length ∧
            OwnMetadata registration message answers alone := by
  have flow_eq : (messages.map (enter registration))[index]? =
      some (enter registration message) := by
    rw [List.getElem?_map, message_eq]
    rfl
  obtain ⟨call, call_eq, begins, _, ended⟩ := World.isolated ran flow_eq
  refine ⟨call, call_eq, fun handed member => ?_, begins, fun result result_eq => ?_⟩
  · exact (course registration message _).sent_empty handed (begins.subset member)
  · obtain ⟨alone_eq, enough⟩ := ended result result_eq
    have sent_eq : call.sent =
        ((enter registration message).play (received index moves)).sent := by rw [alone_eq]
    exact ⟨sent_eq, by rw [alone_eq], enough, ownMetadata (sent_eq ▸ enough)⟩

/-- Two logins wait at the same time, and the first one fails with the status of its own answer. -/
theorem logins_are_isolated_two :
    let moves := List.replicate 7 (Move.proceed 0) ++ List.replicate 7 (Move.proceed 1) ++
      [Move.store 0 0 ⟨some 503, none⟩, Move.store 1 0 ⟨some 500, none⟩,
        Move.answer 0 (.error (.other "lost")), Move.store 0 0 ⟨some 200, none⟩, Move.proceed 0]
    ∃ (last : World (Except Error Identity)) (call : Call (Except Error Identity)),
      (World.start ([exampleCallback, exampleCallback].map (enter exampleRegistration))).run
        moves = some last ∧
      last.calls[0]? = some call ∧
      call.result? = some (.error (.provider (.transport (.other .token (some 503) "lost")))) ∧
      (∀ handed ∈ call.sent, handed.1 = .empty) ∧
      OwnMetadata exampleRegistration exampleCallback
        [⟨some ⟨some 503, none⟩, .error (.other "lost")⟩]
        ((enter exampleRegistration exampleCallback).play
          [⟨some ⟨some 503, none⟩, .error (.other "lost")⟩]) := by
  intro moves
  have ended_eq :
      ((World.start ([exampleCallback, exampleCallback].map (enter exampleRegistration))).run
        moves).bind (fun last => (last.calls[0]?).bind Call.result?) =
          some (.error (.provider (.transport (.other .token (some 503) "lost")))) := by
    decide +kernel
  obtain ⟨last, ran, result_eq⟩ := Option.bind_eq_some_iff.1 ended_eq
  obtain ⟨call, call_eq, empty, -, ended⟩ := @logins_are_isolated _ _ _ _ ran 0 exampleCallback rfl
  rw [call_eq, Option.bind_some] at result_eq
  obtain ⟨-, -, -, own⟩ := ended _ result_eq
  exact ⟨last, call, ran, call_eq, result_eq, empty, own⟩

end Google

end SignIn
