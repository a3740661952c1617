import SignIn.Proofs.TokenForm
import SignIn.Proofs.Url.Changes

/-!
# The login link

A user is sent to a place below the provider's login with five named values behind those that the
place has.  Who asks and where users come back to are told there in the same words as later in the
form for a token.
-/

namespace SignIn.Google

/-- The event of a login that is started. -/
def departure : Event := .opened label "start_authorization"

theorem authorization_of_extend? {registration : Registration} {place : Url}
    (extended : registration.endpoints.oauth.extend? ["o", "oauth2", "auth"] = some place)
    (state : LoginState) :
    authorization registration state =
      .ok ⟨place.appendPairs (linkPairs registration state), state.text⟩ := by
  rw [authorization, Endpoints.oauthUrl, Endpoints.extend_eq_ok_iff.2 extended]
  rfl

theorem authorization_of_flat {registration : Registration}
    (flat : registration.endpoints.oauth.canBeBase = false) (state : LoginState) :
    authorization registration state =
      .error (.config (.endpoint "oauth" registration.endpoints.oauth.text)) := by
  rw [authorization, Endpoints.oauthUrl, Endpoints.extend, Url.extend?_eq_none_iff.2 flat]

theorem validate_eq_ok_iff {link : Authorization} {returned : String} :
    link.validate returned = .ok () ↔ returned = link.state := by
  simp [Authorization.validate]

/-- What a login link tells the provider, and what it leaves of the provider's login. -/
structure Tells (registration : Registration) (state : LoginState) (link : Authorization) :
    Prop where
  /-- The scheme is that of the provider's login. -/
  scheme_eq : link.url.scheme = registration.endpoints.oauth.scheme
  /-- The user, the host and the port are those of the provider's login. -/
  authority_eq : link.url.authority = registration.endpoints.oauth.authority
  /-- The fragment is that of the provider's login. -/
  fragment_eq : link.url.fragment = registration.endpoints.oauth.fragment
  /-- Five values are told behind those of the provider's login. -/
  namedValues_eq : link.url.namedValues = registration.endpoints.oauth.namedValues ++ [
    ("client_id", registration.clientId), ("redirect_uri", registration.redirectUri),
    ("response_type", "code"), ("scope", "https://www.googleapis.com/auth/userinfo.profile"),
    ("state", state.text)]

/-- What a login link tells behind the values of the provider's login. -/
def told (registration : Registration) (link : Authorization) : List (String × String) :=
  link.url.namedValues.drop registration.endpoints.oauth.namedValues.length

theorem Tells.told_eq {registration : Registration} {state : LoginState} {link : Authorization}
    (tells : Tells registration state link) :
    told registration link = linkPairs registration state := by
  rw [told, tells.namedValues_eq, List.drop_left]
  rfl

theorem tells_of_extend? {registration : Registration} {place : Url}
    (extended : registration.endpoints.oauth.extend? ["o", "oauth2", "auth"] = some place)
    (state : LoginState) :
    Tells registration state
      ⟨place.appendPairs (linkPairs registration state), state.text⟩ := by
  obtain ⟨own, -, rfl⟩ := Url.extend?_eq_some_iff.1 extended
  refine ⟨?_, ?_, ?_, Url.namedValues_appendPairs _ _⟩
  all_goals
    obtain ⟨query, url_eq⟩ := Url.appendPairs_frame
      { registration.endpoints.oauth with
        path := .rooted (Url.extended registration.endpoints.oauth.kind own
          ["o", "oauth2", "auth"]) } (linkPairs registration state)
    rw [url_eq]

/-- Where the provider's login can be extended, every start of a login succeeds, with a link that
tells who asks and where users come back to as they are, and a state that alone is accepted when it
comes back.  Every form for a token that is posted later says the same of the two.  Where the
provider's login cannot be extended there is no link, and the error names it. -/
theorem login_link_agrees (registration : Registration) (state : LoginState)
    (answers : List Answer) :
    let run := (start registration state).play answers
    run.events = [.opened "google" "start_authorization"] ∧ run.sent = [] ∧ run.left = answers ∧
    (registration.endpoints.oauth.canBeBase = true →
      ∃ link, run.result = .ok link ∧ Tells registration state link ∧
        (∀ message later slot post,
          (slot, post) ∈ ((enter registration message).play later).sent → post.method = .post →
            ∀ name ∈ ["client_id", "redirect_uri"], ∃ value,
              (told registration link).lookup name = some value ∧
                (Exchange.readForm post.body).lookup name = some value) ∧
        ∀ returned, link.validate returned = .ok () ↔
          (told registration link).lookup "state" = some returned) ∧
    (registration.endpoints.oauth.canBeBase = false →
      run.result = .error (.config (.endpoint "oauth" registration.endpoints.oauth.text))) := by
  intro run
  have run_eq : run = ⟨authorization registration state, [departure], [], answers⟩ := rfl
  rw [run_eq]
  refine ⟨rfl, rfl, rfl, fun base => ?_, fun flat => authorization_of_flat flat state⟩
  cases extended : registration.endpoints.oauth.extend? ["o", "oauth2", "auth"] with
  | none =>
    rw [Url.extend?_eq_none_iff.1 extended] at base
    cases base
  | some place =>
    have tells := tells_of_extend? extended state
    refine ⟨_, authorization_of_extend? extended state, tells, ?_, fun returned => ?_⟩
    · intro message later slot post member posted name listed
      obtain ⟨code, place, target, -, -, -, rfl⟩ := isTokenPost_of_mem_sent member posted
      rw [tells.told_eq, Exchange.readForm_formBody]
      simp only [List.mem_cons, List.not_mem_nil, or_false] at listed
      rcases listed with rfl | rfl
      · exact ⟨registration.clientId, rfl, rfl⟩
      · exact ⟨registration.redirectUri, rfl, rfl⟩
    · have state_eq : (linkPairs registration state).lookup "state" = some state.text := rfl
      rw [tells.told_eq, validate_eq_ok_iff, state_eq, Option.some.injEq, eq_comm]

/-- A provider's login with a user, a port, a query that ends with an ampersand, and a fragment; an
application whose name and address consist of signs of forms. -/
theorem login_link_agrees_signs :
    let login : Url := ⟨"https".toList,
      some ⟨"u".toList, none, some (.name "login.example".toList), some 8443⟩, false,
      .rooted ["base".toList, []], some "hint=a%20b&".toList, some "top".toList⟩
    let registration : Registration :=
      ⟨"ü&state=1", ⟨"secret"⟩, "https://app.example.com/cb?x=+&y=%20", ⟨login, login⟩, by decide,
        by decide +kernel⟩
    let state : LoginState := ⟨List.replicate 32 'z', by decide, by decide⟩
    login.canBeBase = true ∧
    ∃ link slot post, ((start registration state).play []).result = .ok link ∧
      link.url.authority = login.authority ∧ link.url.fragment = some "top".toList ∧
      link.url.namedValues = [("hint", "a b"), ("client_id", "ü&state=1"),
        ("redirect_uri", "https://app.example.com/cb?x=+&y=%20"), ("response_type", "code"),
        ("scope", "https://www.googleapis.com/auth/userinfo.profile"), ("state", state.text)] ∧
      (slot, post) ∈ ((enter registration exampleCallback).play []).sent ∧
      (Exchange.readForm post.body).lookup "redirect_uri" =
        some "https://app.example.com/cb?x=+&y=%20" ∧
      link.validate state.text = .ok () := by
  intro login registration state
  have base : login.canBeBase = true := rfl
  obtain ⟨-, -, -, started, -⟩ := login_link_agrees registration state []
  obtain ⟨link, link_eq, tells, agrees, accepts⟩ := started base
  let place : Url :=
    { login with path := .rooted (["base", "o", "oauth2", "token"].map String.toList) }
  have extended : login.extend? ["o", "oauth2", "token"] = some place := by decide +kernel
  obtain ⟨target, target_eq⟩ : ∃ target, Http.Target.read place.chars = .ok target := ⟨_, rfl⟩
  let post : Http.Request := ⟨.post, target, .http11, Exchange.formFields,
    Exchange.formBody (form registration "1")⟩
  have carried := Callback.code_eq_ok_iff.1 code_exampleCallback
  have asked : (requests registration exampleCallback [])[0]? = some post :=
    (first_request_iff registration exampleCallback [] post).2
      ⟨"1", place, target, carried, extended, target_eq, rfl⟩
  obtain ⟨⟨slot, request⟩, member, same⟩ := List.mem_map.1 (List.mem_of_getElem? asked)
  obtain rfl : request = post := same
  obtain ⟨address, address_eq, again⟩ :=
    agrees exampleCallback [] slot post member rfl "redirect_uri" (by simp)
  rw [tells.told_eq] at address_eq accepts
  refine ⟨base, link, slot, post, link_eq, tells.authority_eq, tells.fragment_eq, ?_, member, ?_,
    (accepts state.text).2 rfl⟩
  · have login_values : login.namedValues = [("hint", "a b")] := by decide +kernel
    exact tells.namedValues_eq.trans (congrArg (· ++ _) login_values)
  · rw [again, ← address_eq]
    rfl

end SignIn.Google
