import SignIn.Proofs.Secrecy
import SignIn.Proofs.TokenAnswers
import SignIn.Proofs.Url.Target

/-!
# Where the access token goes

An access token is written into the query of the request for a profile, in one place, and nowhere
else: logins that are given different tokens are alike from then on, up to that place.
-/

namespace SignIn

/-! ## Runs -/

section

variable {α : Type} {Allowed : Http.Request → Http.Request → Prop} {left right : Run α}

theorem Run.Alike.after (alike : left.Alike Allowed right) (events : List Event) :
    (Google.after events left).Alike Allowed (Google.after events right) :=
  ⟨alike.result_eq, congrArg (events ++ ·) alike.events_eq, alike.left_eq, alike.sent⟩

theorem Run.Alike.afterSending (alike : left.Alike Allowed right) {request : Http.Request}
    (same : Allowed request request) :
    (Google.afterSending request left).Alike Allowed (Google.afterSending request right) :=
  ⟨alike.result_eq, alike.events_eq, alike.left_eq, .cons ⟨rfl, same⟩ alike.sent⟩

end

namespace Google

/-! ## Requests -/

/-- A profile can be asked for with a token: there is a place to ask, and with the token it is a
request target. -/
def CanFetch (registration : Registration) (token : Secret) : Prop :=
  ∃ place target, registration.endpoints.api.extend? ["plus", "v1", "people", "me"] = some place ∧
    Http.Target.read (place.appendPair "access_token" token.exposed).chars = .ok target

/-- A request for a profile whose query ends with a token. -/
def getWith (target : Http.Target) (front : List Char) (token : Secret) : Http.Request :=
  let query := front ++ Form.encodePair ("access_token".toList, token.exposed.toList)
  ⟨.get, { target with query := some query }, .http11, Exchange.fetchFields, []⟩

/-- The same request, or a request for a profile with another token in the place of the first. -/
inductive DifferInToken (token other : Secret) : Http.Request → Http.Request → Prop where
  | same (request : Http.Request) : DifferInToken token other request request
  | gets (target : Http.Target) (front : List Char) :
      DifferInToken token other (getWith target front token) (getWith target front other)

/-- A request for a profile at the provider's place for profiles, with a token behind the named
values of that place and nothing else. -/
structure AsksWith (registration : Registration) (token : Secret) (get : Http.Request) : Prop where
  /-- Something is asked for. -/
  method_eq : get.method = .get
  /-- Nothing is handed over. -/
  body_eq : get.body = []
  /-- The scheme is that of the provider's profiles. -/
  scheme_eq : get.target.scheme = some registration.endpoints.api.scheme
  /-- The user, the host and the port are those of the provider's profiles. -/
  authority_eq : ∃ authority, registration.endpoints.api.authority = some authority ∧
    get.target.authority = authority.text
  /-- The path is an extension of that of the provider's profiles. -/
  path_eq : ∃ place, registration.endpoints.api.extend? ["plus", "v1", "people", "me"] =
    some place ∧ get.target.path = place.path.text
  /-- The token is told as it is, behind the named values of the provider's profiles. -/
  query_eq : ∃ query, get.target.query = some query ∧ Form.decode query =
    registration.endpoints.api.queryPairs ++ [("access_token".toList, token.exposed.toList)]

variable {registration : Registration}

/-- The place for profiles with a token is a request target exactly if it is not too long and its
parts can stand in one. -/
theorem read_profile_place {place : Url}
    (spelled : ∃ text, Url.ofString text = .ok registration.endpoints.api)
    (extended : registration.endpoints.api.extend? ["plus", "v1", "people", "me"] = some place)
    (token : Secret) (target : Http.Target) :
    Http.Target.read (place.appendPair "access_token" token.exposed).chars = .ok target ↔
      (Utf8.encode (place.appendPair "access_token" token.exposed).chars).length ≤ 65534 ∧
        ∃ authority, registration.endpoints.api.authority = some authority ∧
          (place.appendPair "access_token" token.exposed).CanBeTarget authority ∧
          target = ⟨some registration.endpoints.api.scheme, authority.text, place.path.text,
            (place.appendPair "access_token" token.exposed).query⟩ := by
  obtain ⟨text, read_eq⟩ := spelled
  have formed := (Url.wellFormed_of_parse read_eq).extend? extended
  obtain ⟨own, -, rfl⟩ := Url.extend?_eq_some_iff.1 extended
  exact (formed.appendPair "access_token" token.exposed).read_chars_eq_ok_iff rfl

theorem asksWith_of_profileRequest {token : Secret} {get : Http.Request}
    (spelled : ∃ text, Url.ofString text = .ok registration.endpoints.api)
    (get_eq : profileRequest registration token = .ok get) : AsksWith registration token get := by
  obtain ⟨place, target, extended, target_eq, rfl⟩ := profileRequest_eq_ok_iff.1 get_eq
  obtain ⟨-, authority, authority_eq, -, rfl⟩ :=
    (read_profile_place spelled extended token target).1 target_eq
  obtain ⟨front, appended⟩ := place.appendPair_eq "access_token"
  have pairs_eq := place.queryPairs_appendPair "access_token" token.exposed
  have same_pairs : place.queryPairs = registration.endpoints.api.queryPairs := by
    obtain ⟨own, -, rfl⟩ := Url.extend?_eq_some_iff.1 extended
    rfl
  rw [appended, same_pairs] at pairs_eq
  refine ⟨rfl, rfl, rfl, ⟨authority, authority_eq, rfl⟩, ⟨place, extended, rfl⟩, _, ?_, pairs_eq⟩
  rw [appended]

/-- Two tokens that can be used make requests that differ in the token. -/
theorem differInToken_of_profileRequest {token other : Secret} {get other_get : Http.Request}
    (spelled : ∃ text, Url.ofString text = .ok registration.endpoints.api)
    (get_eq : profileRequest registration token = .ok get)
    (other_eq : profileRequest registration other = .ok other_get) :
    DifferInToken token other get other_get := by
  obtain ⟨place, target, extended, target_eq, rfl⟩ := profileRequest_eq_ok_iff.1 get_eq
  obtain ⟨again, other_target, again_eq, other_target_eq, rfl⟩ :=
    profileRequest_eq_ok_iff.1 other_eq
  obtain rfl : place = again := Option.some.inj (extended.symm.trans again_eq)
  obtain ⟨-, authority, authority_eq, -, rfl⟩ :=
    (read_profile_place spelled extended token target).1 target_eq
  obtain ⟨-, same, same_eq, -, rfl⟩ :=
    (read_profile_place spelled extended other other_target).1 other_target_eq
  obtain rfl : authority = same := Option.some.inj (authority_eq.symm.trans same_eq)
  obtain ⟨front, appended⟩ := place.appendPair_eq "access_token"
  rw [appended, appended]
  exact .gets ⟨some registration.endpoints.api.scheme, authority.text, place.path.text, none⟩ front

theorem canFetch_iff {token : Secret} :
    CanFetch registration token ↔ ∃ get, profileRequest registration token = .ok get := by
  simp only [CanFetch, profileRequest_eq_ok_iff]
  constructor
  · rintro ⟨place, target, extended, target_eq⟩
    exact ⟨_, place, target, extended, target_eq, rfl⟩
  · rintro ⟨_, place, target, extended, target_eq, rfl⟩
    exact ⟨place, target, extended, target_eq⟩

/-- Where a profile can be asked for with one token, it can be with another one unless the place is
too long then. -/
theorem CanFetch.other_iff {token : Secret}
    (spelled : ∃ text, Url.ofString text = .ok registration.endpoints.api)
    (can : CanFetch registration token) (other : Secret) :
    CanFetch registration other ↔
      ∃ place, registration.endpoints.api.extend? ["plus", "v1", "people", "me"] = some place ∧
        (Utf8.encode (place.appendPair "access_token" other.exposed).chars).length ≤ 65534 := by
  obtain ⟨place, target, extended, target_eq⟩ := can
  obtain ⟨-, authority, authority_eq, fits, -⟩ :=
    (read_profile_place spelled extended token target).1 target_eq
  constructor
  · rintro ⟨again, other_target, again_eq, other_eq⟩
    exact ⟨again, again_eq, ((read_profile_place spelled again_eq other other_target).1 other_eq).1⟩
  · rintro ⟨again, again_eq, short⟩
    obtain rfl : place = again := Option.some.inj (extended.symm.trans again_eq)
    exact ⟨place, _, extended, (read_profile_place spelled extended other _).2
      ⟨short, authority, authority_eq, fits.appendPair other.exposed, rfl⟩⟩

/-! ## Flows -/

/-- What is left of a login once it has been given a token. -/
def afterToken (registration : Registration) (token : Secret) : Flow (Except Error Identity) :=
  observe .fetchingProfile (fetch registration token) fun fields =>
  observe .parsingProfile (.done (Profile.identityOf fields)) fun identity =>
  .done (.ok identity)

theorem afterToken_alike {token other : Secret}
    (spelled : ∃ text, Url.ofString text = .ok registration.endpoints.api)
    (can : CanFetch registration token) (other_can : CanFetch registration other) :
    (afterToken registration token).Alike (DifferInToken token other)
      (afterToken registration other) := by
  obtain ⟨get, get_eq⟩ := canFetch_iff.1 can
  obtain ⟨other_get, other_eq⟩ := canFetch_iff.1 other_can
  refine observe_alike .fetchingProfile ?_ fun fields => .refl .same _
  rw [fetch_eq, fetch_eq, get_eq, other_eq]
  exact .send .empty (differInToken_of_profileRequest spelled get_eq other_eq) fun reply => .done _

/-- A login goes as far as its token: what it does depends on the first answer through the token
alone. -/
theorem play_enter (registration : Registration) (message : Message) (answers : List Answer) :
    (enter registration message).play answers =
      after [opening] (match Callback.code message with
        | .error error => ⟨.error error, block .awaitingCode .failure, [], answers⟩
        | .ok code => after (block .awaitingCode .success)
          (match tokenRequest registration code with
          | .error error => ⟨.error error, block .exchangingToken .failure, [], answers⟩
          | .ok post =>
            match tokenIn (firstReply answers) with
            | .error error =>
              ⟨.error error, block .exchangingToken .failure, [(.empty, post)], answers.tail⟩
            | .ok token => afterSending post (after (block .exchangingToken .success)
              ((afterToken registration token).play answers.tail)))) := by
  rw [enter, authenticate, Flow.play_report, play_observe_done]
  cases Callback.code message with
  | error error => rfl
  | ok code =>
    simp only [exchange_eq, play_observe_roundTrip]
    cases tokenRequest registration code with
    | error error => rfl
    | ok post =>
      simp only [firstReply]
      cases tokenIn ((answers.headD .exhausted).reply .empty) <;> rfl

/-- A login that is given a token has asked for it, and goes on with it. -/
theorem play_enter_of_token {message : Message} {post : Http.Request} {answers : List Answer}
    {token : Secret} (posted : IsTokenPost registration message post)
    (given : GivesToken answers token) :
    (enter registration message).play answers =
      after (opening :: block .awaitingCode .success) (afterSending post
        (after (block .exchangingToken .success)
          ((afterToken registration token).play answers.tail))) := by
  obtain ⟨code, code_eq, post_eq⟩ := isTokenPost_iff.1 posted
  simp only [play_enter, code_eq, post_eq, givesToken_iff.1 given]
  rfl

/-- A token that a login is given is told as it is to the provider's place for profiles, behind the
named values of that place.  Whatever else happens does not depend on the token: with another one
the login reports the same, sends the same up to the token, and ends in the same way.  Whether a
token can be used at all depends on its length alone. -/
theorem token_only_in_profile_query (registration : Registration)
    (spelled : ∃ text, Url.ofString text = .ok registration.endpoints.api) :
    (∀ message post answers token, IsTokenPost registration message post →
      GivesToken answers token → CanFetch registration token →
      ∃ get, requests registration message answers = [post, get] ∧
        AsksWith registration token get) ∧
    (∀ token other, CanFetch registration token → (CanFetch registration other ↔
      ∃ place, registration.endpoints.api.extend? ["plus", "v1", "people", "me"] = some place ∧
        (Utf8.encode (place.appendPair "access_token" other.exposed).chars).length ≤ 65534)) ∧
    (∀ message post answer other_answer later token other,
      IsTokenPost registration message post →
      GivesToken (answer :: later) token → GivesToken (other_answer :: later) other →
      CanFetch registration token → CanFetch registration other →
      ((enter registration message).play (answer :: later)).Alike (DifferInToken token other)
        ((enter registration message).play (other_answer :: later))) := by
  refine ⟨?_, fun token other can => can.other_iff spelled other, ?_⟩
  · intro message post answers token posted given can
    obtain ⟨get, get_eq⟩ := canFetch_iff.1 can
    have first := (first_request_iff registration message answers post).2 posted
    have second := (second_request_iff registration message answers get).2
      ⟨⟨post, posted⟩, isProfileGet_iff.2 ⟨token, givesToken_iff.1 given, get_eq⟩⟩
    exact ⟨get, requests_eq_of_both _ _ _ first second, asksWith_of_profileRequest spelled get_eq⟩
  · intro message post answer other_answer later token other posted given other_given can other_can
    rw [play_enter_of_token posted given, play_enter_of_token posted other_given]
    have rest := (afterToken_alike spelled can other_can).play later
    exact ((rest.after _).afterSending (.same post)).after _

/-- A place for profiles with a port, a query and a fragment, and a token that consists of signs of
forms: it is told as it is, and the login fails as it does with any other token. -/
theorem token_only_in_profile_query_signs :
    let api : Url := ⟨"https".toList,
      some ⟨[], none, some (.name "api.example".toList), some 8443⟩, false,
      .rooted ["v0".toList, []], some "key=a%20b".toList, some "top".toList⟩
    let registration := exampleRegistration.withEndpoints ⟨Endpoints.google.oauth, api⟩
    Url.ofString "https://api.example:8443/v0/?key=a b#top" = .ok api ∧
    ∃ post get query,
      requests registration exampleCallback [tokenAnswer ⟨"T&1=ü"⟩] = [post, get] ∧
      get.target.authority = "api.example:8443".toList ∧
      get.target.path = "/v0/plus/v1/people/me".toList ∧ get.target.query = some query ∧
      Form.decode query = [("key".toList, "a b".toList),
        ("access_token".toList, "T&1=ü".toList)] ∧
      ((enter registration exampleCallback).play [tokenAnswer ⟨"T&1=ü"⟩]).result =
        ((enter registration exampleCallback).play [tokenAnswer ⟨"T1"⟩]).result := by
  intro api registration
  have read_eq : Url.ofString "https://api.example:8443/v0/?key=a b#top" = .ok api := by
    decide +kernel
  obtain ⟨post, posted⟩ := @isTokenPost_google registration _ _ rfl code_exampleCallback
  have given := givesToken_tokenAnswer ⟨"T&1=ü"⟩ []
  have other_given := givesToken_tokenAnswer ⟨"T1"⟩ []
  have place_eq : api.extend? ["plus", "v1", "people", "me"] = some { api with
      path := .rooted (["v0", "plus", "v1", "people", "me"].map String.toList) } := by
    decide +kernel
  have can : CanFetch registration ⟨"T&1=ü"⟩ := ⟨_, _, place_eq, rfl⟩
  have other_can : CanFetch registration ⟨"T1"⟩ := ⟨_, _, place_eq, rfl⟩
  obtain ⟨asks, -, alike⟩ := token_only_in_profile_query registration ⟨_, read_eq⟩
  obtain ⟨get, requests_eq, asked⟩ := asks exampleCallback _ _ _ posted given can
  obtain ⟨authority, authority_eq, text_eq⟩ := asked.authority_eq
  obtain ⟨place, extended, path_eq⟩ := asked.path_eq
  obtain ⟨query, query_eq, decoded⟩ := asked.query_eq
  have authority_text : Authority.text ⟨[], none, some (.name "api.example".toList), some 8443⟩ =
      "api.example:8443".toList := by decide
  have path_text : UrlPath.text (.rooted (["v0", "plus", "v1", "people", "me"].map String.toList)) =
      "/v0/plus/v1/people/me".toList := by decide
  have pairs_eq : api.queryPairs = [("key".toList, "a b".toList)] := by decide +kernel
  cases authority_eq
  obtain rfl := Option.some.inj (place_eq.symm.trans extended)
  refine ⟨read_eq, post, get, query, requests_eq, text_eq.trans authority_text,
    path_eq.trans path_text, query_eq, decoded.trans (congrArg (· ++ _) pairs_eq), ?_⟩
  exact (alike exampleCallback _ _ _ _ _ _ posted given other_given can other_can).result_eq

end Google

end SignIn
