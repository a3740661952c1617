import SignIn.Proofs.Profile
import SignIn.Proofs.Requests

/-!
# Failures

What the failure of each stage of a login can be.
-/

namespace SignIn

/-! ## The callback -/

theorem Callback.code_error {message : Message} {error : Error}
    (failed : code message = .error error) :
    error.IsMalformed ∨ ∃ reason, error = .badRequest reason := by
  unfold code at failed
  split at failed
  next url_eq =>
    cases failed
    exact .inl (isMalformed_of_url url_eq)
  next =>
    unfold codeOf at failed
    split at failed
    next =>
      cases failed
      exact .inr ⟨_, rfl⟩
    next =>
      cases failed
      exact .inr ⟨_, rfl⟩
    next => cases failed

namespace Google

/-! ## Requests -/

variable {registration : Registration}

/-- A request that cannot be sent is a fault of the registration. -/
theorem config_of_request {place : Except ConfigError Url}
    {request : Url → Except Http.Fault Http.Request} {error : Error}
    (failed : (match place with
      | .error cause => .error (.config cause)
      | .ok url => (request url).mapError fun fault => .config (.request fault)) =
        Except.error error) : ∃ cause, error = .config cause := by
  cases place with
  | error cause =>
    cases failed
    exact ⟨cause, rfl⟩
  | ok url =>
    obtain ⟨fault, _, error_eq⟩ := mapError_eq_error_iff.1 failed
    exact ⟨.request fault, error_eq.symm⟩

theorem tokenRequest_error {code : String} {error : Error}
    (failed : tokenRequest registration code = .error error) : ∃ cause, error = .config cause :=
  config_of_request failed

theorem profileRequest_error {token : Secret} {error : Error}
    (failed : profileRequest registration token = .error error) :
    ∃ cause, error = .config cause :=
  config_of_request failed

/-! ## Replies -/

theorem tokenIn_error {reply : Reply} {error : Error} (failed : tokenIn reply = .error error) :
    (∃ fault, reply.outcome = .error fault ∧ error = fault.error .token reply.slot.content) ∨
      (∃ response, reply.outcome = .ok response ∧ response.status.code ≠ 200 ∧
        error = .provider (.status .token response.status.code (Exchange.preview response.body)
          (reply.slot.content.bind (·.retryAfter)))) ∨
        ∃ response failure, reply.outcome = .ok response ∧
          Exchange.tokenRecord.read response.body = .error failure ∧
            error = .provider (.parse .token failure) := by
  unfold tokenIn at failed
  split at failed
  next fault outcome_eq =>
    cases failed
    exact .inl ⟨fault, outcome_eq, rfl⟩
  next response outcome_eq =>
    unfold Exchange.tokenOf at failed
    split at failed
    next =>
      obtain ⟨failure, read_eq, rfl⟩ := Exchange.readBody_eq_error_iff.1 failed
      exact .inr (.inr ⟨response, failure, outcome_eq, read_eq, rfl⟩)
    next rejected =>
      cases failed
      exact .inr (.inl ⟨response, outcome_eq, mt Http.Status.eq_ok_iff.2 rejected, rfl⟩)

theorem fieldsIn_error {reply : Reply} {error : Error} (failed : fieldsIn reply = .error error) :
    (∃ fault, reply.outcome = .error fault ∧ error = fault.error .profile reply.slot.content) ∨
      ∃ response failure, reply.outcome = .ok response ∧
        Json.object response.body = .error failure ∧
          error = .provider (.parse .profile failure) := by
  unfold fieldsIn at failed
  split at failed
  next fault outcome_eq =>
    cases failed
    exact .inl ⟨fault, outcome_eq, rfl⟩
  next response outcome_eq =>
    obtain ⟨failure, read_eq, rfl⟩ := Exchange.readBody_eq_error_iff.1 failed
    exact .inr ⟨response, failure, outcome_eq, read_eq, rfl⟩

end Google

/-! ## Profiles -/

namespace Profile

/-- A profile is refused only for the lack of a name for the user. -/
theorem identity_error {profile : Profile} {error : Error}
    (failed : profile.identity = .error error) :
    error = .provider (.missingField .profile "id") := by
  unfold identity at failed
  split at failed
  next =>
    cases failed
    rfl
  next =>
    cases failed
    rfl
  next id id_ne id_eq =>
    rw [Identity.namespaced_google id_ne] at failed
    cases failed

theorem identityOf_error {fields : Dictionary Json.Value} {error : Error}
    (failed : identityOf fields = .error error) :
    (∃ reason, fields.get? "error" ≠ none ∧ error = .badRequest reason) ∨
      (∃ failure, fields.get? "error" = none ∧ read fields = .error failure ∧
        error = .provider (.parse .profile failure)) ∨
        fields.get? "error" = none ∧ error = .provider (.missingField .profile "id") := by
  unfold identityOf at failed
  split at failed
  next told =>
    cases failed
    exact .inl ⟨_, by simp [told], rfl⟩
  next silent =>
    split at failed
    next failure read_eq =>
      cases failed
      exact .inr (.inl ⟨failure, silent, read_eq, rfl⟩)
    next profile read_eq => exact .inr (.inr ⟨silent, identity_error failed⟩)

/-- Fields are refused as ill-typed exactly if they tell of no error of their own. -/
theorem identityOf_eq_parse_iff {fields : Dictionary Json.Value} {failure : Json.Failure} :
    identityOf fields = .error (.provider (.parse .profile failure)) ↔
      fields.get? "error" = none ∧ read fields = .error failure := by
  constructor
  · intro failed
    rcases identityOf_error failed with ⟨_, _, impossible⟩ | ⟨_, silent, read_eq, error_eq⟩ |
      ⟨_, impossible⟩
    · cases impossible
    · cases error_eq
      exact ⟨silent, read_eq⟩
    · cases impossible
  · rintro ⟨silent, read_eq⟩
    simp only [identityOf, silent, read_eq]

end Profile

/-! ## Logins -/

/-- Where the provider is to blame, one of its answers is. -/
theorem Google.Course.provider_error {registration : Registration} {message : Message}
    {answers : List Answer} {run : Run (Except Error Identity)}
    (way : Course registration message answers run) {error : ProviderError}
    (failed : run.result = .error (.provider error)) :
    (run.sent.length = 1 ∧ tokenIn (firstReply answers) = .error (.provider error)) ∨
      (run.sent.length = 2 ∧ fieldsIn (secondReply answers) = .error (.provider error)) ∨
        ∃ fields, Profile.identityOf fields = .error (.provider error) := by
  cases way with
  | noCode code_eq =>
    cases failed
    rcases Callback.code_error code_eq with ⟨_, impossible⟩ | ⟨_, impossible⟩ <;> cases impossible
  | notAsked _ post_eq =>
    cases failed
    obtain ⟨_, impossible⟩ := tokenRequest_error post_eq
    cases impossible
  | noToken _ _ token_eq =>
    cases failed
    exact .inl ⟨rfl, token_eq⟩
  | notFetched _ _ _ get_eq =>
    cases failed
    obtain ⟨_, impossible⟩ := profileRequest_error get_eq
    cases impossible
  | noFields _ _ _ _ fields_eq =>
    cases failed
    exact .inr (.inl ⟨rfl, fields_eq⟩)
  | parsed => exact .inr (.inr ⟨_, failed⟩)

end SignIn
