import SignIn.Pass
import SignIn.Proofs.Profile
import SignIn.Proofs.Requests

/-!
# Flow safety

A login sends nothing, or asks for a token, or asks for a token and then for a profile.  Each of the
two requests is sent under an exact condition, and an identity comes out of nothing but a profile.
-/

namespace SignIn.Google

/-! ## Conditions -/

/-- The request that asks for a token on behalf of a callback.  The callback has to carry a code,
and the place to ask has to exist and to be a request target. -/
def IsTokenPost (registration : Registration) (message : Message) (request : Http.Request) : Prop :=
  ∃ code place target, Callback.Carries message code ∧
    registration.endpoints.oauth.extend? ["o", "oauth2", "token"] = some place ∧
    Http.Target.read place.chars = .ok target ∧
    request = ⟨.post, target, .http11, Exchange.formFields,
      Exchange.formBody (form registration code)⟩

/-- The first answer is a success with a token in it. -/
def GivesToken (answers : List Answer) (token : Secret) : Prop :=
  ∃ metadata response rest, answers[0]? = some ⟨metadata, .ok response⟩ ∧
    response.status.code = 200 ∧ Exchange.tokenRecord.read response.body = .ok (token, rest)

/-- The second answer has an object in it, whatever its status. -/
def GivesFields (answers : List Answer) (fields : Dictionary Json.Value) : Prop :=
  ∃ metadata response rest, answers[1]? = some ⟨metadata, .ok response⟩ ∧
    Json.object response.body = .ok (fields, rest)

/-- The request that asks for a profile with the token in the first answer. -/
def IsProfileGet (registration : Registration) (answers : List Answer)
    (request : Http.Request) : Prop :=
  ∃ token place target, GivesToken answers token ∧
    registration.endpoints.api.extend? ["plus", "v1", "people", "me"] = some place ∧
    Http.Target.read (place.appendPair "access_token" token.exposed).chars = .ok target ∧
    request = ⟨.get, target, .http11, Exchange.fetchFields, []⟩

theorem isTokenPost_iff {registration : Registration} {message : Message}
    {request : Http.Request} :
    IsTokenPost registration message request ↔
      ∃ code, Callback.code message = .ok code ∧ tokenRequest registration code = .ok request := by
  simp only [IsTokenPost, tokenRequest_eq_ok_iff, Callback.code_eq_ok_iff]
  constructor
  · rintro ⟨code, place, target, carried, rest⟩
    exact ⟨code, carried, place, target, rest⟩
  · rintro ⟨code, carried, place, target, rest⟩
    exact ⟨code, place, target, carried, rest⟩

/-- At Google there is always a place to ask for a token. -/
theorem isTokenPost_google {registration : Registration} {message : Message} {code : String}
    (oauth_eq : registration.endpoints.oauth = Endpoints.google.oauth)
    (code_eq : Callback.code message = .ok code) :
    ∃ post, IsTokenPost registration message post := by
  have place_eq : ∃ place target,
      Endpoints.google.oauth.extend? ["o", "oauth2", "token"] = some place ∧
        Http.Target.read place.chars = .ok target := ⟨_, _, rfl, rfl⟩
  obtain ⟨place, target, extended, target_eq⟩ := place_eq
  rw [← oauth_eq] at extended
  exact ⟨_, code, place, target, Callback.code_eq_ok_iff.1 code_eq, extended, target_eq, rfl⟩

/-- Whether there is an answer shows in the reply: without one the transport fails. -/
theorem firstReply_outcome_iff {answers : List Answer} {response : Http.Response} :
    (firstReply answers).outcome = .ok response ↔
      ∃ metadata, answers[0]? = some ⟨metadata, .ok response⟩ := by
  cases answers with
  | nil => simp [firstReply, Answer.exhausted]
  | cons answer answers =>
    obtain ⟨metadata, outcome⟩ := answer
    simp [firstReply]

theorem givesToken_iff {answers : List Answer} {token : Secret} :
    GivesToken answers token ↔ tokenIn (firstReply answers) = .ok token := by
  simp only [GivesToken, tokenIn_eq_ok_iff, firstReply_outcome_iff]
  constructor
  · rintro ⟨metadata, response, rest, answered, accepted⟩
    exact ⟨response, rest, ⟨metadata, answered⟩, accepted⟩
  · rintro ⟨response, rest, ⟨metadata, answered⟩, accepted⟩
    exact ⟨metadata, response, rest, answered, accepted⟩

theorem givesFields_iff {answers : List Answer} {fields : Dictionary Json.Value} :
    GivesFields answers fields ↔ fieldsIn (secondReply answers) = .ok fields := by
  simp only [GivesFields, fieldsIn_eq_ok_iff, secondReply, firstReply_outcome_iff,
    List.getElem?_tail]
  constructor
  · rintro ⟨metadata, response, rest, answered, read_eq⟩
    exact ⟨response, rest, ⟨metadata, answered⟩, read_eq⟩
  · rintro ⟨response, rest, ⟨metadata, answered⟩, read_eq⟩
    exact ⟨metadata, response, rest, answered, read_eq⟩

theorem isProfileGet_iff {registration : Registration} {answers : List Answer}
    {request : Http.Request} :
    IsProfileGet registration answers request ↔
      ∃ token, tokenIn (firstReply answers) = .ok token ∧
        profileRequest registration token = .ok request := by
  simp only [IsProfileGet, givesToken_iff, profileRequest_eq_ok_iff]
  constructor
  · rintro ⟨token, place, target, given, rest⟩
    exact ⟨token, given, place, target, rest⟩
  · rintro ⟨token, given, place, target, rest⟩
    exact ⟨token, place, target, given, rest⟩

/-! ## The pass -/

/-- A login through Google as a pass that can be played. -/
def pass (registration : Registration) : Pass Flow :=
  Pass.google Flow.ask Flow.tell registration

theorem play_pass (registration : Registration) (message : Message) (answers : List Answer) :
    ((pass registration).enter message).play answers =
      let run := (enter registration message).play answers
      ⟨run.result.map some, run.events, run.sent, run.left⟩ := by
  have as_flow : (pass registration).enter message =
      (enter registration message).bind fun result => .done (result.map some) := by
    change ((enter registration message).interpret Flow.ask Flow.tell).bind _ = _
    rw [Flow.interpret_ask_tell]
    rfl
  rw [as_flow, Flow.play_bind]
  simp [Run.before]

/-! ## What is sent and what is found -/

section

variable (registration : Registration) (message : Message) (answers : List Answer)

/-- The requests of a login in order. -/
def requests : List Http.Request :=
  ((enter registration message).play answers).sent.map (·.2)

theorem requests_shape :
    requests registration message answers = [] ∨
      (∃ post, requests registration message answers = [post]) ∨
        ∃ post get, requests registration message answers = [post, get] := by
  have way := course registration message answers
  unfold requests
  generalize (enter registration message).play answers = run at way
  cases way with
  | noCode | notAsked => exact .inl rfl
  | noToken | notFetched => exact .inr (.inl ⟨_, rfl⟩)
  | noFields | parsed => exact .inr (.inr ⟨_, _, rfl⟩)

theorem first_request_iff (post : Http.Request) :
    (requests registration message answers)[0]? = some post ↔
      IsTokenPost registration message post := by
  have way := course registration message answers
  unfold requests
  rw [isTokenPost_iff]
  generalize (enter registration message).play answers = run at way
  cases way with
  | noCode code_eq => simp [code_eq]
  | notAsked code_eq post_eq => simp [code_eq, post_eq]
  | noToken code_eq post_eq => simp [code_eq, post_eq]
  | notFetched code_eq post_eq => simp [code_eq, post_eq]
  | noFields code_eq post_eq => simp [code_eq, post_eq]
  | parsed code_eq post_eq => simp [code_eq, post_eq]

theorem asked_of_isTokenPost {post : Http.Request}
    (post_ok : IsTokenPost registration message post) :
    ((enter registration message).play answers).sent ≠ [] := by
  intro none_sent
  have first := (first_request_iff registration message answers post).2 post_ok
  rw [requests, none_sent] at first
  cases first

theorem second_request_iff (get : Http.Request) :
    (requests registration message answers)[1]? = some get ↔
      (∃ post, IsTokenPost registration message post) ∧
        IsProfileGet registration answers get := by
  have way := course registration message answers
  unfold requests
  simp only [isTokenPost_iff, isProfileGet_iff]
  generalize (enter registration message).play answers = run at way
  cases way with
  | noCode code_eq => simp [code_eq]
  | notAsked code_eq post_eq => simp [code_eq, post_eq]
  | noToken code_eq post_eq token_eq => simp [token_eq]
  | notFetched code_eq post_eq token_eq get_eq => simp [token_eq, get_eq]
  | noFields code_eq post_eq token_eq get_eq => simp [code_eq, post_eq, token_eq, get_eq]
  | parsed code_eq post_eq token_eq get_eq => simp [code_eq, post_eq, token_eq, get_eq]

theorem requests_eq_of_both {post get : Http.Request}
    (first : (requests registration message answers)[0]? = some post)
    (second : (requests registration message answers)[1]? = some get) :
    requests registration message answers = [post, get] := by
  rcases requests_shape registration message answers with
    none_sent | ⟨_, one_sent⟩ | ⟨_, _, two_sent⟩
  · rw [none_sent] at first
    cases first
  · rw [one_sent] at second
    cases second
  · rw [two_sent] at first second ⊢
    cases first
    cases second
    rfl

/-- Whoever asks for a profile sends two requests. -/
theorem length_sent_of_second {get : Http.Request}
    (second : (requests registration message answers)[1]? = some get) :
    ((enter registration message).play answers).sent.length = 2 := by
  rcases requests_shape registration message answers with
    none_sent | ⟨_, one_sent⟩ | ⟨_, _, two_sent⟩
  · rw [none_sent] at second
    cases second
  · rw [one_sent] at second
    cases second
  · have lengths := congrArg List.length two_sent
    simpa [requests] using lengths

theorem result_iff (identity : Identity) :
    ((enter registration message).play answers).result = .ok identity ↔
      (requests registration message answers).length = 2 ∧
        ∃ fields, GivesFields answers fields ∧ Profile.identityOf fields = .ok identity := by
  have way := course registration message answers
  unfold requests
  simp only [givesFields_iff]
  generalize (enter registration message).play answers = run at way
  cases way with
  | noCode | notAsked | noToken | notFetched => simp
  | noFields code_eq post_eq token_eq get_eq fields_eq => simp [fields_eq]
  | parsed code_eq post_eq token_eq get_eq fields_eq => simp [fields_eq]

/-- A login asks for a token exactly if its callback carries a code and there is a place to ask, and
for a profile exactly if it has been given a token and there is a place to ask; it asks for nothing
else and for nothing twice.  An identity is found exactly if the profile is an object that tells of
no error and names the user. -/
theorem login_asks_once :
    let run := ((pass registration).enter message).play answers
    let sent := run.sent.map (·.2)
    (sent = [] ∨ (∃ post, sent = [post]) ∨ ∃ post get, sent = [post, get]) ∧
    (∀ post, sent[0]? = some post ↔ IsTokenPost registration message post) ∧
    (∀ get, sent[1]? = some get ↔
      (∃ post, IsTokenPost registration message post) ∧ IsProfileGet registration answers get) ∧
    run.result ≠ .ok none ∧
    (∀ identity, run.result = .ok (some identity) ↔
      sent.length = 2 ∧ ∃ fields, GivesFields answers fields ∧
        fields.get? "error" = none ∧ ∃ profile id, Profile.read fields = .ok profile ∧
          fields.get? "id" = some (.string id) ∧ id ≠ "" ∧
          identity.urn = "urn:google:" ++ id ∧
          identity.properties = .ofList profile.properties) := by
  intro run sent
  have run_eq := play_pass registration message answers
  have sent_eq : sent = requests registration message answers := by
    simp only [sent, run, run_eq, requests]
  have result_eq : run.result = ((enter registration message).play answers).result.map some := by
    simp only [run, run_eq]
  rw [sent_eq, result_eq]
  refine ⟨requests_shape _ _ _, first_request_iff _ _ _, second_request_iff _ _ _, ?_, ?_⟩
  · cases ((enter registration message).play answers).result <;> simp [Except.map]
  · intro identity
    have found_iff := result_iff registration message answers identity
    simp only [Profile.identityOf_eq_ok_iff, Identity.joinUrn_google] at found_iff
    refine Iff.trans ?_ found_iff
    simp

end

/-! ## An example -/

/-- A client of Google. -/
def exampleRegistration : Registration :=
  ⟨"client", ⟨"secret"⟩, "https://app.example.com/cb", .google, by decide, by decide +kernel⟩

/-- A user comes back to the client with a code. -/
def exampleCallback : Message := ⟨["GET /cb?code=1 HTTP/1.1"], []⟩

theorem code_exampleCallback : Callback.code exampleCallback = .ok "1" := by decide +kernel

/-- The client asks for a token. -/
theorem exists_examplePost : ∃ post, IsTokenPost exampleRegistration exampleCallback post :=
  isTokenPost_google rfl code_exampleCallback

theorem asked_example (answers : List Answer) :
    ((enter exampleRegistration exampleCallback).play answers).sent ≠ [] := by
  obtain ⟨post, post_ok⟩ := exists_examplePost
  exact asked_of_isTokenPost _ _ _ post_ok

/-- With a token it asks for a profile. -/
theorem length_sent_example {answers : List Answer} (given : GivesToken answers ⟨"T1"⟩) :
    ((enter exampleRegistration exampleCallback).play answers).sent.length = 2 := by
  have place_eq : ∃ place target,
      Endpoints.google.api.extend? ["plus", "v1", "people", "me"] = some place ∧
        Http.Target.read (place.appendPair "access_token" "T1").chars = .ok target :=
    ⟨_, _, rfl, rfl⟩
  obtain ⟨place, target, extended, target_eq⟩ := place_eq
  exact length_sent_of_second _ _ _ ((second_request_iff _ _ _ _).2
    ⟨exists_examplePost, ⟨"T1"⟩, place, target, given, extended, target_eq, rfl⟩)

end SignIn.Google
