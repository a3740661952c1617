import SignIn.Proofs.Isolation

/-!
# Who is to blame

Every failure of a login belongs to one of its stages, and the error tells which party is to blame:
the one who sent the callback, the provider, or the local configuration.  Only a failure to read the
callback and an error in the profile itself are blamed on the one who sent the callback.
-/

namespace SignIn

/-! ## Errors -/

/-- The round trip on which an exchange broke down. -/
def TransportError.hop : TransportError → Hop
  | .network hop _ _ | .io hop _ | .other hop _ _ => hop

/-- The round trip of which something is wrong. -/
def ProviderError.hop : ProviderError → Hop
  | .status hop _ _ _ | .parse hop _ | .missingField hop _ => hop
  | .transport error => error.hop

/-- A fault of the request, before it is on its way. -/
def TransportFault.IsLocal : TransportFault → Prop
  | .request _ | .builder _ => True
  | .network _ _ | .io _ | .other _ => False

/-- The status to be shown for a fault on the way. -/
def TransportFault.status? (recorded : Option Nat) : TransportFault → Option Nat
  | .network own _ => recorded.or own
  | .other _ => recorded
  | .request _ | .builder _ | .io _ => none

section

variable {fault : TransportFault} (hop : Hop) (metadata : Option Metadata)

theorem TransportFault.error_of_isLocal (at_home : fault.IsLocal) :
    ∃ cause, fault.error hop metadata = .config cause := by
  cases fault with
  | request fault => exact ⟨.request fault, rfl⟩
  | builder cause => exact ⟨.clientBuild cause, rfl⟩
  | network | io | other => exact at_home.elim

theorem TransportFault.error_of_not_isLocal (on_the_way : ¬fault.IsLocal) :
    ∃ breakdown, fault.error hop metadata = .provider (.transport breakdown) ∧
      breakdown.hop = hop ∧ breakdown.status? = fault.status? (metadata.bind (·.status)) := by
  cases fault with
  | request | builder => exact absurd trivial on_the_way
  | network | io | other => exact ⟨_, rfl, rfl, rfl⟩

theorem TransportFault.error_cases (fault : TransportFault) :
    (∃ cause, fault.error hop metadata = .config cause) ∨
      ∃ breakdown, fault.error hop metadata = .provider (.transport breakdown) ∧
        breakdown.hop = hop := by
  by_cases at_home : fault.IsLocal
  · exact .inl (fault.error_of_isLocal hop metadata at_home)
  · obtain ⟨breakdown, error_eq, hop_eq, -⟩ := fault.error_of_not_isLocal hop metadata at_home
    exact .inr ⟨breakdown, error_eq, hop_eq⟩

end

/-- An error for which the local configuration is to blame. -/
def Error.IsConfig (error : Error) : Prop := ∃ cause, error = .config cause

/-- An error for which a round trip to the provider is to blame. -/
def Error.IsOfHop (hop : Hop) (error : Error) : Prop :=
  ∃ breach, error = .provider breach ∧ breach.hop = hop

theorem Error.IsConfig.not_client {error : Error} (local_error : error.IsConfig) :
    error.isClientError = false := by
  obtain ⟨cause, rfl⟩ := local_error
  rfl

theorem Error.IsOfHop.not_client {hop : Hop} {error : Error} (of_hop : error.IsOfHop hop) :
    error.isClientError = false := by
  obtain ⟨breach, rfl, -⟩ := of_hop
  rfl

namespace Google

/-- A login counts a failure of a stage. -/
def FailsIn {α : Type} (run : Run α) (stage : Stage) : Prop :=
  Event.counted label stage .failure ∈ run.events

/-- The profile has been fetched, and is an object that tells of an error. -/
def ToldError {α : Type} (answers : List Answer) (run : Run α) : Prop :=
  run.sent.length = 2 ∧ ∃ fields, GivesFields answers fields ∧ fields.get? "error" ≠ none

variable {registration : Registration} {message : Message} {answers : List Answer}
  {run : Run (Except Error Identity)} {error : Error}

/-- What a login fails of, in which stage, and after how many requests. -/
inductive Failing (registration : Registration) (message : Message) (answers : List Answer)
    (error : Error) : Stage → Nat → Prop where
  | callback (code_eq : Callback.code message = .error error) :
      Failing registration message answers error .awaitingCode 0
  | notAsked {code : String} (post_eq : tokenRequest registration code = .error error) :
      Failing registration message answers error .exchangingToken 0
  | token (token_eq : tokenIn (firstReply answers) = .error error) :
      Failing registration message answers error .exchangingToken 1
  | notFetched {token : Secret} (token_eq : tokenIn (firstReply answers) = .ok token)
      (get_eq : profileRequest registration token = .error error) :
      Failing registration message answers error .fetchingProfile 1
  | fields (fields_eq : fieldsIn (secondReply answers) = .error error) :
      Failing registration message answers error .fetchingProfile 2
  | profile {fields : Dictionary Json.Value}
      (fields_eq : fieldsIn (secondReply answers) = .ok fields)
      (identity_eq : Profile.identityOf fields = .error error) :
      Failing registration message answers error .parsingProfile 2

/-! ## Replies -/

theorem firstReply_outcome :
    (firstReply answers).outcome = (answers.getD 0 .exhausted).outcome := by
  cases answers <;> rfl

theorem firstReply_content :
    (firstReply answers).slot.content = (answers.getD 0 .exhausted).metadata := by
  rw [firstReply, Answer.reply_empty_content]
  cases answers <;> rfl

theorem secondReply_outcome :
    (secondReply answers).outcome = (answers.getD 1 .exhausted).outcome := by
  rw [secondReply, firstReply_outcome]
  cases answers <;> rfl

theorem secondReply_content :
    (secondReply answers).slot.content = (answers.getD 1 .exhausted).metadata := by
  rw [secondReply, firstReply_content]
  cases answers <;> rfl

/-! ## Stages -/

/-- A login that fails does so in one stage. -/
theorem Course.failing (way : Course registration message answers run)
    (failed : run.result = .error error) :
    ∃ stage, (∀ other, FailsIn run other ↔ other = stage) ∧
      Failing registration message answers error stage run.sent.length := by
  cases way with
  | noCode code_eq =>
    cases failed
    exact ⟨_, fun other => by simp [FailsIn, opening, block], .callback code_eq⟩
  | notAsked _ post_eq =>
    cases failed
    exact ⟨_, fun other => by simp [FailsIn, opening, block], .notAsked post_eq⟩
  | noToken _ _ token_eq =>
    cases failed
    exact ⟨_, fun other => by simp [FailsIn, opening, block], .token token_eq⟩
  | notFetched _ _ token_eq get_eq =>
    cases failed
    exact ⟨_, fun other => by simp [FailsIn, opening, block], .notFetched token_eq get_eq⟩
  | noFields _ _ _ _ fields_eq =>
    cases failed
    exact ⟨_, fun other => by simp [FailsIn, opening, block], .fields fields_eq⟩
  | @parsed _ _ _ _ fields _ _ _ _ fields_eq =>
    have refused : Profile.identityOf fields = .error error := failed
    have outcome_eq : (if (Profile.identityOf fields).isOk then Outcome.success else .failure) =
        .failure := by rw [refused]; rfl
    refine ⟨_, fun other => ?_, .profile fields_eq refused⟩
    simp [FailsIn, opening, block, outcome_eq]

namespace Failing

variable {stage : Stage} {count : Nat}

theorem callback_error
    (failing : Failing registration message answers error .awaitingCode count) :
    count = 0 ∧ (error.IsMalformed ∨ ∃ reason, error = .badRequest reason) := by
  cases failing with
  | callback code_eq => exact ⟨rfl, Callback.code_error code_eq⟩

/-- A code is not exchanged for want of a request, or by what comes back. -/
theorem exchange_error
    (failing : Failing registration message answers error .exchangingToken count) :
    error.IsConfig ∨ error.IsOfHop .token := by
  cases failing with
  | notAsked post_eq => exact .inl (tokenRequest_error post_eq)
  | token token_eq =>
    rcases tokenIn_error token_eq with ⟨fault, -, rfl⟩ | ⟨_, -, -, rfl⟩ | ⟨_, failure, -, -, rfl⟩
    · rcases fault.error_cases .token (firstReply answers).slot.content with
        at_home | ⟨breakdown, error_eq, hop_eq⟩
      · exact .inl at_home
      · exact .inr ⟨_, error_eq, hop_eq⟩
    · exact .inr ⟨_, rfl, rfl⟩
    · exact .inr ⟨_, rfl, rfl⟩

/-- A profile is not fetched for want of a request, or by what comes back, whatever its status. -/
theorem fetch_error
    (failing : Failing registration message answers error .fetchingProfile count) :
    error.IsConfig ∨ (∃ failure, error = .provider (.parse .profile failure)) ∨
      ∃ breakdown, error = .provider (.transport breakdown) ∧ breakdown.hop = .profile := by
  cases failing with
  | notFetched _ get_eq => exact .inl (profileRequest_error get_eq)
  | fields fields_eq =>
    rcases fieldsIn_error fields_eq with ⟨fault, -, rfl⟩ | ⟨_, failure, -, -, error_eq⟩
    · rcases fault.error_cases .profile (secondReply answers).slot.content with
        at_home | breakdown
      · exact .inl at_home
      · exact .inr (.inr breakdown)
    · exact .inr (.inl ⟨failure, error_eq⟩)

/-- An object gives no identity if it tells of an error, or if it does not tell of a user. -/
theorem parse_error
    (failing : Failing registration message answers error .parsingProfile count) :
    (∃ reason, error = .badRequest reason) ∨
      (∃ failure, error = .provider (.parse .profile failure)) ∨
        error = .provider (.missingField .profile "id") := by
  cases failing with
  | profile _ refused =>
    rcases Profile.identityOf_error refused with ⟨reason, -, bad⟩ | ⟨failure, -, -, ill⟩ |
      ⟨-, lacking⟩
    · exact .inl ⟨reason, bad⟩
    · exact .inr (.inl ⟨failure, ill⟩)
    · exact .inr (.inr lacking)

/-- The object tells of an error exactly if the failure is a bad request of the last stage. -/
theorem told_iff (failing : Failing registration message answers error stage run.sent.length) :
    ToldError answers run ↔ stage = .parsingProfile ∧ ∃ reason, error = .badRequest reason := by
  simp only [ToldError, givesFields_iff]
  generalize run.sent.length = count at failing
  constructor
  · rintro ⟨count_eq, fields, fields_eq, told⟩
    cases failing with
    | callback | notAsked | token | notFetched => cases count_eq
    | fields failed =>
      rw [fields_eq] at failed
      cases failed
    | profile given refused =>
      rw [fields_eq, Except.ok.injEq] at given
      subst given
      rcases Profile.identityOf_error refused with ⟨reason, -, bad⟩ | ⟨_, silent, -⟩ | ⟨silent, -⟩
      · exact ⟨rfl, reason, bad⟩
      · exact absurd silent told
      · exact absurd silent told
  · rintro ⟨rfl, reason, rfl⟩
    cases failing with
    | profile fields_eq refused =>
      rcases Profile.identityOf_error refused with ⟨_, told, -⟩ | ⟨_, _, _, impossible⟩ |
        ⟨_, impossible⟩
      · exact ⟨rfl, _, fields_eq, told⟩
      · cases impossible
      · cases impossible

/-- The caller is to blame for a bad callback, and for an error of which the provider tells. -/
theorem client_iff (failing : Failing registration message answers error stage count) :
    error.isClientError ↔
      stage = .awaitingCode ∨ stage = .parsingProfile ∧ ∃ reason, error = .badRequest reason := by
  cases stage with
  | awaitingCode =>
    rcases failing.callback_error.2 with ⟨reason, rfl⟩ | ⟨reason, rfl⟩ <;>
      simp [Error.isClientError]
  | exchangingToken =>
    have not_client : error.isClientError = false :=
      failing.exchange_error.elim Error.IsConfig.not_client Error.IsOfHop.not_client
    simp [not_client]
  | fetchingProfile =>
    have not_client : error.isClientError = false := by
      rcases failing.fetch_error with config | ⟨failure, rfl⟩ | ⟨breakdown, rfl, -⟩
      · exact config.not_client
      · rfl
      · rfl
    simp [not_client]
  | parsingProfile =>
    rcases failing.parse_error with ⟨reason, rfl⟩ | ⟨failure, rfl⟩ | rfl <;>
      simp [Error.isClientError]

/-- Every error is of one of four kinds. -/
theorem known (failing : Failing registration message answers error stage count) :
    error.IsMalformed ∨ (∃ reason, error = .badRequest reason) ∨ error.IsConfig ∨
      ∃ breach, error = .provider breach := by
  cases stage with
  | awaitingCode =>
    rcases failing.callback_error.2 with malformed | bad
    · exact .inl malformed
    · exact .inr (.inl bad)
  | exchangingToken =>
    rcases failing.exchange_error with config | ⟨breach, error_eq, -⟩
    · exact .inr (.inr (.inl config))
    · exact .inr (.inr (.inr ⟨breach, error_eq⟩))
  | fetchingProfile =>
    rcases failing.fetch_error with config | ⟨failure, error_eq⟩ | ⟨breakdown, error_eq, -⟩
    · exact .inr (.inr (.inl config))
    · exact .inr (.inr (.inr ⟨_, error_eq⟩))
    · exact .inr (.inr (.inr ⟨_, error_eq⟩))
  | parsingProfile =>
    rcases failing.parse_error with bad | ⟨failure, error_eq⟩ | error_eq
    · exact .inr (.inl bad)
    · exact .inr (.inr (.inr ⟨_, error_eq⟩))
    · exact .inr (.inr (.inr ⟨_, error_eq⟩))

/-- Where a request is answered by a fault, the login fails of that fault. -/
theorem fault_error {index : Nat} {fault : TransportFault}
    (failing : Failing registration message answers error stage (index + 1))
    (answered : (answers.getD index .exhausted).outcome = .error fault) :
    error = fault.error (hopAt index) (answers.getD index .exhausted).metadata := by
  cases failing with
  | token token_eq =>
    rw [← firstReply_outcome] at answered
    rw [tokenIn, answered] at token_eq
    rw [← firstReply_content]
    exact (Except.error.inj token_eq).symm
  | notFetched token_eq =>
    rw [← firstReply_outcome] at answered
    rw [tokenIn, answered] at token_eq
    cases token_eq
  | fields fields_eq =>
    rw [← secondReply_outcome] at answered
    rw [fieldsIn, answered] at fields_eq
    rw [← secondReply_content]
    exact (Except.error.inj fields_eq).symm
  | profile fields_eq =>
    rw [← secondReply_outcome] at answered
    rw [fieldsIn, answered] at fields_eq
    cases fields_eq

end Failing

/-! ## Logins -/

/-- An error of a login tells which party is to blame. -/
structure Blame (answers : List Answer) (run : Run (Except Error Identity)) (error : Error) :
    Prop where
  /-- A login fails in one stage. -/
  stage : ∃! stage, FailsIn run stage
  /-- The callback is to blame, or the provider says that it is. -/
  client_iff : error.isClientError ↔ FailsIn run .awaitingCode ∨ ToldError answers run
  /-- A bad callback is told from the callback alone. -/
  callback : FailsIn run .awaitingCode →
    run.sent = [] ∧ (error.IsMalformed ∨ ∃ reason, error = .badRequest reason)
  /-- An error in a profile is found after all requests. -/
  told : ToldError answers run →
    FailsIn run .parsingProfile ∧ ∃ reason, error = .badRequest reason
  exchange : FailsIn run .exchangingToken → error.IsConfig ∨ error.IsOfHop .token
  fetch : FailsIn run .fetchingProfile →
    error.IsConfig ∨ (∃ failure, error = .provider (.parse .profile failure)) ∨
      ∃ breakdown, error = .provider (.transport breakdown) ∧ breakdown.hop = .profile
  parse : FailsIn run .parsingProfile → ¬ToldError answers run →
    (∃ failure, error = .provider (.parse .profile failure)) ∨
      ∃ field, error = .provider (.missingField .profile field)
  /-- Errors of other kinds do not occur. -/
  excluded : (∀ cause, error ≠ .identity cause) ∧
    (∀ name known, error ≠ .missingHeader name known) ∧ ∀ cause, error ≠ .lookUp cause
  /-- A transport that fails is to blame, unless it has been given a bad request. -/
  fault : ∀ index fault, run.sent.length = index + 1 →
    (answers.getD index .exhausted).outcome = .error fault →
    (fault.IsLocal → error.IsConfig) ∧
    (¬fault.IsLocal → ∃ breakdown, error = .provider (.transport breakdown) ∧
      breakdown.hop = hopAt index ∧ breakdown.status? =
        fault.status? ((answers.getD index .exhausted).metadata.bind (·.status)))

/-- A login that fails blames the right party. -/
theorem failures_are_blamed
    (failed : ((enter registration message).play answers).result = .error error) :
    Blame answers ((enter registration message).play answers) error := by
  have way := course registration message answers
  obtain ⟨stage, stage_iff, failing⟩ := way.failing failed
  generalize (enter registration message).play answers = run at stage_iff failing
  constructor
  case stage => exact ⟨stage, (stage_iff stage).2 rfl, fun other => (stage_iff other).1⟩
  case client_iff =>
    rw [stage_iff, failing.told_iff, failing.client_iff]
    exact or_congr_left eq_comm
  case callback =>
    intro fails
    obtain rfl := (stage_iff _).1 fails
    obtain ⟨count_eq, error_ok⟩ := failing.callback_error
    exact ⟨List.eq_nil_of_length_eq_zero count_eq, error_ok⟩
  case told =>
    intro told
    rw [stage_iff]
    obtain ⟨stage_eq, bad⟩ := failing.told_iff.1 told
    exact ⟨stage_eq.symm, bad⟩
  case exchange =>
    intro fails
    obtain rfl := (stage_iff _).1 fails
    exact failing.exchange_error
  case fetch =>
    intro fails
    obtain rfl := (stage_iff _).1 fails
    exact failing.fetch_error
  case parse =>
    intro fails silent
    obtain rfl := (stage_iff _).1 fails
    rcases failing.parse_error with bad | ill | lacking
    · exact absurd (failing.told_iff.2 ⟨rfl, bad⟩) silent
    · exact .inl ill
    · exact .inr ⟨_, lacking⟩
  case excluded =>
    rcases failing.known with ⟨_, rfl⟩ | ⟨_, rfl⟩ | ⟨_, rfl⟩ | ⟨_, rfl⟩ <;>
      exact ⟨nofun, nofun, nofun⟩
  case fault =>
    intro index fault count_eq answered
    rw [count_eq] at failing
    rw [failing.fault_error answered]
    exact ⟨fault.error_of_isLocal _ _, fault.error_of_not_isLocal _ _⟩

/-- The network fails after the head of an answer: the provider is to blame, with the status of the
head. -/
theorem failures_are_blamed_network :
    let answers := [⟨some ⟨some 503, none⟩, .error (.network (some 500) "lost")⟩]
    let run := (enter exampleRegistration exampleCallback).play answers
    let error := Error.provider (.transport (.network .token (some 503) "lost"))
    run.result = .error error ∧ Blame answers run error := by
  intro answers run error
  have failed : run.result = .error error := by decide +kernel
  exact ⟨failed, failures_are_blamed failed⟩

end Google

end SignIn
