import SignIn.Login.Google
import SignIn.Proofs.Except
import SignIn.Proofs.Play

/-!
# The course of a login

The two round trips of a login taken apart into the request that is sent and what is made of the
reply, and from that the six ways in which a login can go.  Whatever holds of every login is read
off `Course`.
-/

namespace SignIn.Google

/-! ## Round trips -/

/-- The request that exchanges a code for an access token. -/
def tokenRequest (registration : Registration) (code : String) : Except Error Http.Request :=
  match registration.endpoints.oauthUrl ["o", "oauth2", "token"] with
  | .error error => .error (.config error)
  | .ok url =>
    (Exchange.formRequest url (form registration code)).mapError fun fault =>
      .config (.request fault)

/-- The access token in a reply. -/
def tokenIn (reply : Reply) : Except Error Secret :=
  match reply.outcome with
  | .error fault => .error (fault.error .token reply.slot.content)
  | .ok response => Exchange.tokenOf response reply.slot.content

/-- The request that fetches a profile. -/
def profileRequest (registration : Registration) (token : Secret) : Except Error Http.Request :=
  match registration.endpoints.apiUrl ["plus", "v1", "people", "me"] with
  | .error error => .error (.config error)
  | .ok url =>
    (Exchange.fetchRequest (url.appendPair "access_token" token.exposed)).mapError fun fault =>
      .config (.request fault)

/-- The fields of a profile in a reply. -/
def fieldsIn (reply : Reply) : Except Error (Dictionary Json.Value) :=
  match reply.outcome with
  | .error fault => .error (fault.error .profile reply.slot.content)
  | .ok response => Exchange.readBody .profile Json.object response.body

/-- Send a request, if there is one, with an empty slot. -/
def roundTrip {α : Type} (request : Except Error Http.Request)
    (read : Reply → Except Error α) : Flow (Except Error α) :=
  match request with
  | .error error => .done (.error error)
  | .ok request => .send .empty request fun reply => .done (read reply)

theorem exchange_eq (registration : Registration) (code : String) :
    exchange registration code = roundTrip (tokenRequest registration code) tokenIn := by
  unfold exchange tokenRequest
  cases registration.endpoints.oauthUrl ["o", "oauth2", "token"] with
  | error error => rfl
  | ok url =>
    simp only [Exchange.token]
    cases Exchange.formRequest url (form registration code) with
    | error fault => rfl
    | ok request =>
      simp only [Exchange.dispatch, Flow.bind, roundTrip, mapError_ok]
      congr 1
      funext reply
      unfold tokenIn
      cases reply.outcome <;> rfl

theorem fetch_eq (registration : Registration) (token : Secret) :
    fetch registration token = roundTrip (profileRequest registration token) fieldsIn := by
  unfold fetch profileRequest
  cases registration.endpoints.apiUrl ["plus", "v1", "people", "me"] with
  | error error => rfl
  | ok url =>
    simp only [Exchange.fields]
    cases Exchange.fetchRequest (url.appendPair "access_token" token.exposed) with
    | error fault => rfl
    | ok request =>
      simp only [Exchange.dispatch, Flow.bind, roundTrip, mapError_ok]
      congr 1
      funext reply
      unfold fieldsIn
      cases reply.outcome <;> rfl

/-! ## Stages -/

/-- What is reported of a stage that ends with a given outcome. -/
def block (stage : Stage) (outcome : Outcome) : List Event :=
  [.reached stage, .counted label stage .attempt, .counted label stage outcome]

/-- What is reported before the first stage. -/
def opening : Event := .opened label "enter"

/-- Something is reported before a run. -/
def after {α : Type} (events : List Event) (run : Run α) : Run α :=
  { run with events := events ++ run.events }

/-- Something is sent before a run. -/
def afterSending {α : Type} (request : Http.Request) (run : Run α) : Run α :=
  { run with sent := (.empty, request) :: run.sent }

variable {α β : Type}

theorem play_observe_done (stage : Stage) (result : Except Error α)
    (next : α → Flow (Except Error β)) (answers : List Answer) :
    (observe stage (.done result) next).play answers =
      match result with
      | .ok content => after (block stage .success) ((next content).play answers)
      | .error error => ⟨.error error, block stage .failure, [], answers⟩ := by
  cases result <;> rfl

theorem play_observe_roundTrip (stage : Stage) (request : Except Error Http.Request)
    (read : Reply → Except Error α) (next : α → Flow (Except Error β)) (answers : List Answer) :
    (observe stage (roundTrip request read) next).play answers =
      match request with
      | .error error => ⟨.error error, block stage .failure, [], answers⟩
      | .ok request =>
        match read ((answers.headD .exhausted).reply .empty) with
        | .ok content =>
          afterSending request (after (block stage .success) ((next content).play answers.tail))
        | .error error =>
          ⟨.error error, block stage .failure, [(.empty, request)], answers.tail⟩ := by
  cases request with
  | error error => rfl
  | ok request =>
    simp only [observe, roundTrip, Flow.bind, Flow.play_report, Flow.play_send]
    cases read ((answers.headD .exhausted).reply .empty) <;> rfl

/-! ## Whole logins -/

/-- The reply to the first request of a login. -/
def firstReply (answers : List Answer) : Reply := (answers.headD .exhausted).reply .empty

/-- The reply to the second request of a login. -/
def secondReply (answers : List Answer) : Reply := firstReply answers.tail

/-- The ways in which a login can go, each with all that happens on the way. -/
inductive Course (registration : Registration) (message : Message) (answers : List Answer) :
    Run (Except Error Identity) → Prop where
  /-- The callback carries no code. -/
  | noCode {error : Error} (code_eq : Callback.code message = .error error) :
      Course registration message answers
        ⟨.error error, opening :: block .awaitingCode .failure, [], answers⟩
  /-- The token cannot be asked for. -/
  | notAsked {code : String} {error : Error} (code_eq : Callback.code message = .ok code)
      (post_eq : tokenRequest registration code = .error error) :
      Course registration message answers
        ⟨.error error, opening :: (block .awaitingCode .success ++ block .exchangingToken .failure),
          [], answers⟩
  /-- The token is asked for, but not given. -/
  | noToken {code : String} {post : Http.Request} {error : Error}
      (code_eq : Callback.code message = .ok code)
      (post_eq : tokenRequest registration code = .ok post)
      (token_eq : tokenIn (firstReply answers) = .error error) :
      Course registration message answers
        ⟨.error error, opening :: (block .awaitingCode .success ++ block .exchangingToken .failure),
          [(.empty, post)], answers.tail⟩
  /-- The token is given, but the profile cannot be asked for. -/
  | notFetched {code : String} {post : Http.Request} {token : Secret} {error : Error}
      (code_eq : Callback.code message = .ok code)
      (post_eq : tokenRequest registration code = .ok post)
      (token_eq : tokenIn (firstReply answers) = .ok token)
      (get_eq : profileRequest registration token = .error error) :
      Course registration message answers
        ⟨.error error, opening :: (block .awaitingCode .success ++
          (block .exchangingToken .success ++ block .fetchingProfile .failure)),
          [(.empty, post)], answers.tail⟩
  /-- The profile is asked for, but not given. -/
  | noFields {code : String} {post get : Http.Request} {token : Secret} {error : Error}
      (code_eq : Callback.code message = .ok code)
      (post_eq : tokenRequest registration code = .ok post)
      (token_eq : tokenIn (firstReply answers) = .ok token)
      (get_eq : profileRequest registration token = .ok get)
      (fields_eq : fieldsIn (secondReply answers) = .error error) :
      Course registration message answers
        ⟨.error error, opening :: (block .awaitingCode .success ++
          (block .exchangingToken .success ++ block .fetchingProfile .failure)),
          [(.empty, post), (.empty, get)], answers.tail.tail⟩
  /-- The profile is given, and turned into an identity or refused. -/
  | parsed {code : String} {post get : Http.Request} {token : Secret}
      {fields : Dictionary Json.Value}
      (code_eq : Callback.code message = .ok code)
      (post_eq : tokenRequest registration code = .ok post)
      (token_eq : tokenIn (firstReply answers) = .ok token)
      (get_eq : profileRequest registration token = .ok get)
      (fields_eq : fieldsIn (secondReply answers) = .ok fields) :
      Course registration message answers
        ⟨Profile.identityOf fields, opening :: (block .awaitingCode .success ++
          (block .exchangingToken .success ++ (block .fetchingProfile .success ++
            block .parsingProfile
              (if (Profile.identityOf fields).isOk then .success else .failure)))),
          [(.empty, post), (.empty, get)], answers.tail.tail⟩

/-- Every login goes in one of these ways. -/
theorem course (registration : Registration) (message : Message) (answers : List Answer) :
    Course registration message answers ((enter registration message).play answers) := by
  rw [enter, authenticate, Flow.play_report, play_observe_done]
  cases code_eq : Callback.code message with
  | error error => exact .noCode code_eq
  | ok code =>
    simp only [exchange_eq, play_observe_roundTrip]
    cases request_eq : tokenRequest registration code with
    | error error => exact .notAsked code_eq request_eq
    | ok post =>
      cases token_eq : tokenIn (firstReply answers) with
      | error error =>
        simp only [firstReply] at token_eq
        simp only [token_eq]
        exact .noToken code_eq request_eq token_eq
      | ok token =>
        have first_eq := token_eq
        simp only [firstReply] at first_eq
        simp only [first_eq, fetch_eq, play_observe_roundTrip]
        cases profile_eq : profileRequest registration token with
        | error error => exact .notFetched code_eq request_eq token_eq profile_eq
        | ok get =>
          cases fields_eq : fieldsIn (secondReply answers) with
          | error error =>
            simp only [secondReply, firstReply] at fields_eq
            simp only [fields_eq]
            exact .noFields code_eq request_eq token_eq profile_eq fields_eq
          | ok fields =>
            have second_eq := fields_eq
            simp only [secondReply, firstReply] at second_eq
            simp only [second_eq, play_observe_done]
            have parsed := Course.parsed code_eq request_eq token_eq profile_eq fields_eq
            cases identity_eq : Profile.identityOf fields with
            | error error =>
              rw [identity_eq] at parsed
              exact parsed
            | ok identity =>
              rw [identity_eq] at parsed
              exact parsed

end SignIn.Google
