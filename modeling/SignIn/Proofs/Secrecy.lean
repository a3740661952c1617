import SignIn.Proofs.Alike
import SignIn.Proofs.Requests

/-!
# Where the client's secret goes

A registration's secret is written into the body of the request for a token, in one place, and
nowhere else: logins with registrations that differ in the secret alone are alike up to that place.
-/

namespace SignIn

/-- The same registration with another secret. -/
def Registration.withSecret (registration : Registration) (secret : Secret) : Registration :=
  { registration with clientSecret := secret }

namespace Google

/-! ## Requests -/

/-- A request for a token with a given body. -/
def postWith (target : Http.Target) (body : Bytes) : Http.Request :=
  ⟨.post, target, .http11, Exchange.formFields, body⟩

/-- A secret as it stands in a form between two other pairs. -/
def secretPair (secret : Secret) : Bytes :=
  Utf8.encode ('&' :: Form.encodePair ("client_secret".toList, secret.exposed.toList) ++ ['&'])

/-- The same request, or a request for a token with another secret in the place of the first. -/
inductive DifferInSecret (secret other : Secret) : Http.Request → Http.Request → Prop where
  | same (request : Http.Request) : DifferInSecret secret other request request
  | posts (target : Http.Target) (front back : Bytes) :
      DifferInSecret secret other (postWith target (front ++ secretPair secret ++ back))
        (postWith target (front ++ secretPair other ++ back))

/-- What stands before the secret in the form for a token. -/
def formFront (registration : Registration) : Bytes :=
  Utf8.encode (Form.encodePair ("client_id".toList, registration.clientId.toList) ++
    '&' :: Form.encodePair ("redirect_uri".toList, registration.redirectUri.toList))

/-- What stands behind the secret in the form for a token. -/
def formBack (code : String) : Bytes :=
  Utf8.encode (Form.encodePair ("grant_type".toList, "authorization_code".toList) ++
    '&' :: Form.encodePair ("code".toList, code.toList))

theorem formBody_form (registration : Registration) (code : String) :
    Exchange.formBody (form registration code) =
      formFront registration ++ secretPair registration.clientSecret ++ formBack code := by
  simp [Exchange.formBody, form, Form.encode, Form.encodeMore, formFront, secretPair, formBack,
    Utf8.encode]

variable (registration : Registration) (other : Secret)

/-- With another secret a request for a token fails in the same way or differs in the secret. -/
theorem tokenRequest_withSecret (code : String) :
    (∃ error, tokenRequest registration code = .error error ∧
      tokenRequest (registration.withSecret other) code = .error error) ∨
    ∃ target, tokenRequest registration code =
        .ok (postWith target (formFront registration ++ secretPair registration.clientSecret ++
          formBack code)) ∧
      tokenRequest (registration.withSecret other) code =
        .ok (postWith target (formFront registration ++ secretPair other ++ formBack code)) := by
  have endpoints_eq : (registration.withSecret other).endpoints = registration.endpoints := rfl
  unfold tokenRequest
  rw [endpoints_eq]
  cases registration.endpoints.oauthUrl ["o", "oauth2", "token"] with
  | error error => exact .inl ⟨.config error, rfl, rfl⟩
  | ok url =>
    simp only [Exchange.formRequest_eq, formBody_form]
    cases Http.Target.read url.chars with
    | error fault => exact .inl ⟨.config (.request (.target fault)), rfl, rfl⟩
    | ok target => exact .inr ⟨target, rfl, rfl⟩

/-! ## Flows -/

variable {α β : Type} {Allowed : Http.Request → Http.Request → Prop}

theorem observe_alike (stage : Stage) {left right : Flow (Except Error α)}
    {left_next right_next : α → Flow (Except Error β)} (work : left.Alike Allowed right)
    (next : ∀ content, (left_next content).Alike Allowed (right_next content)) :
    (observe stage left left_next).Alike Allowed (observe stage right right_next) := by
  refine .report _ (.report _ (work.bind fun result => ?_))
  cases result with
  | ok content => exact .report _ (next content)
  | error error => exact .report _ (.done _)

theorem exchange_alike (code : String) :
    (exchange registration code).Alike (DifferInSecret registration.clientSecret other)
      (exchange (registration.withSecret other) code) := by
  rw [exchange_eq, exchange_eq]
  rcases tokenRequest_withSecret registration other code with
    ⟨error, left_eq, right_eq⟩ | ⟨target, left_eq, right_eq⟩
  · rw [left_eq, right_eq]
    exact .done _
  · rw [left_eq, right_eq]
    exact .send .empty (.posts target _ _) fun reply => .done _

/-- Of the four stages only the second one sends what depends on the secret. -/
theorem enter_alike (message : Message) :
    (enter registration message).Alike (DifferInSecret registration.clientSecret other)
      (enter (registration.withSecret other) message) := by
  refine .report opening ?_
  refine observe_alike .awaitingCode (.done _) fun code => ?_
  refine observe_alike .exchangingToken (exchange_alike registration other code) fun token => ?_
  have fetch_same : fetch (registration.withSecret other) token = fetch registration token := rfl
  rw [fetch_same]
  exact .refl .same _

/-- Two registrations that differ in the secret alone log the same users in by the same requests, up
to the secret in the requests for a token, and report the same.  They send users to the same links,
and diagnostics show no difference. -/
theorem secret_only_in_token_posts :
    (∀ (messages : List Message) (answers : List Answer),
      List.Forall₂ (Run.Alike (DifferInSecret registration.clientSecret other))
        (Flow.playAll (messages.map (enter registration)) answers)
        (Flow.playAll (messages.map (enter (registration.withSecret other))) answers)) ∧
    (∀ state, start registration state = start (registration.withSecret other) state) ∧
    registration.describe = (registration.withSecret other).describe ∧
    describe registration = describe (registration.withSecret other) := by
  refine ⟨fun messages answers => ?_, fun state => rfl, rfl, rfl⟩
  apply Flow.playAll_alike
  rw [List.forall₂_map_left_iff, List.forall₂_map_right_iff]
  exact List.forall₂_same.2 fun message _ => enter_alike registration other message

end Google

end SignIn
