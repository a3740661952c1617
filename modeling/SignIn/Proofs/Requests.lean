import SignIn.Proofs.Callback
import SignIn.Proofs.Course
import SignIn.Proofs.Except

/-!
# Outgoing requests

The two requests of a login: when they can be built, and what they are.
-/

namespace SignIn

theorem Url.text_toList (url : Url) : url.text.toList = url.chars := by
  simp [Url.text]

theorem Http.Status.eq_ok_iff {status : Http.Status} : status = .ok ↔ status.code = 200 := by
  obtain ⟨code, digits⟩ := status
  simp [Http.Status.ok]

namespace Exchange

/-- The fields of the request that posts a form. -/
def formFields : Http.Fields := [
  ⟨⟨"content-type".toList, by decide⟩,
    [⟨Utf8.encode "application/x-www-form-urlencoded".toList, by decide⟩]⟩,
  ⟨⟨"accept".toList, by decide⟩, [⟨Utf8.encode "application/json".toList, by decide⟩]⟩]

/-- The fields of the request that fetches JSON. -/
def fetchFields : Http.Fields :=
  [⟨⟨"accept".toList, by decide⟩, [⟨Utf8.encode "application/json".toList, by decide⟩]⟩]

/-- The body of the request that posts a form. -/
def formBody (form : List (String × String)) : Bytes :=
  Utf8.encode (Form.encode (form.map fun (name, value) => (name.toList, value.toList)))

/-- Whether a form can be posted depends on the URL alone. -/
theorem formRequest_eq (url : Url) (form : List (String × String)) :
    formRequest url form =
      match Http.Target.read url.chars with
      | .error fault => .error (.target fault)
      | .ok target => .ok ⟨.post, target, .http11, formFields, formBody form⟩ := by
  have fields_eq : Http.Fields.read
      [("content-type", Utf8.encode "application/x-www-form-urlencoded".toList),
        ("accept", Utf8.encode "application/json".toList)] = .ok formFields := rfl
  have method_eq : Http.Method.read? "POST".toList = some .post := rfl
  simp only [formRequest, Http.Request.build, method_eq, fields_eq, Url.text_toList]
  cases Http.Target.read url.chars <;> rfl

/-- A form can be posted wherever the text of the URL is a request target. -/
theorem formRequest_eq_ok_iff {url : Url} {form : List (String × String)}
    {request : Http.Request} :
    formRequest url form = .ok request ↔
      ∃ target, Http.Target.read url.chars = .ok target ∧
        request = ⟨.post, target, .http11, formFields, formBody form⟩ := by
  rw [formRequest_eq]
  cases Http.Target.read url.chars with
  | error fault => simp
  | ok target => simp [eq_comm]

/-- JSON can be fetched wherever the text of the URL is a request target. -/
theorem fetchRequest_eq_ok_iff {url : Url} {request : Http.Request} :
    fetchRequest url = .ok request ↔
      ∃ target, Http.Target.read url.chars = .ok target ∧
        request = ⟨.get, target, .http11, fetchFields, []⟩ := by
  have fields_eq : Http.Fields.read [("accept", Utf8.encode "application/json".toList)] =
      .ok fetchFields := rfl
  have method_eq : Http.Method.read? "GET".toList = some .get := rfl
  simp only [fetchRequest, Http.Request.build, method_eq, fields_eq, Url.text_toList]
  cases Http.Target.read url.chars with
  | error fault => simp
  | ok target => simp [eq_comm]

theorem readBody_eq_ok_iff {α : Type} {hop : Hop} {reader : Json.Reader α} {body : Bytes}
    {content : α} :
    readBody hop reader body = .ok content ↔ ∃ rest, reader body = .ok (content, rest) := by
  unfold readBody
  cases reader body with
  | error failure => simp
  | ok found => simp [Prod.ext_iff]

theorem readBody_eq_error_iff {α : Type} {hop : Hop} {reader : Json.Reader α} {body : Bytes}
    {error : Error} :
    readBody hop reader body = .error error ↔
      ∃ failure, reader body = .error failure ∧ error = .provider (.parse hop failure) := by
  unfold readBody
  cases reader body with
  | error failure => simp [eq_comm]
  | ok found => simp

end Exchange

namespace Endpoints

theorem extend_eq_ok_iff {name : String} {base url : Url} {segments : List String} :
    extend name base segments = .ok url ↔ base.extend? segments = some url := by
  unfold extend
  cases base.extend? segments <;> simp

theorem extend_eq_error {name : String} {base : Url} {segments : List String}
    {error : ConfigError} (extend_eq : extend name base segments = .error error) :
    base.extend? segments = none := by
  unfold extend at extend_eq
  cases found : base.extend? segments with
  | none => rfl
  | some url => simp [found] at extend_eq

end Endpoints

namespace Google

/-- The request for a token goes to a place below the provider's login. -/
theorem tokenRequest_eq_ok_iff {registration : Registration} {code : String}
    {request : Http.Request} :
    tokenRequest registration code = .ok request ↔
      ∃ place target, registration.endpoints.oauth.extend? ["o", "oauth2", "token"] = some place ∧
        Http.Target.read place.chars = .ok target ∧
          request = ⟨.post, target, .http11, Exchange.formFields,
            Exchange.formBody (form registration code)⟩ := by
  unfold tokenRequest Endpoints.oauthUrl
  cases url_eq : Endpoints.extend "oauth" registration.endpoints.oauth ["o", "oauth2", "token"] with
  | error error => simp [Endpoints.extend_eq_error url_eq]
  | ok place =>
    simp [Endpoints.extend_eq_ok_iff.1 url_eq, Exchange.formRequest_eq_ok_iff]

/-- The request for a profile goes to a place below the provider's profiles, to which the access
token is added. -/
theorem profileRequest_eq_ok_iff {registration : Registration} {token : Secret}
    {request : Http.Request} :
    profileRequest registration token = .ok request ↔
      ∃ place target, registration.endpoints.api.extend? ["plus", "v1", "people", "me"] =
          some place ∧
        Http.Target.read (place.appendPair "access_token" token.exposed).chars = .ok target ∧
          request = ⟨.get, target, .http11, Exchange.fetchFields, []⟩ := by
  unfold profileRequest Endpoints.apiUrl
  cases url_eq : Endpoints.extend "api" registration.endpoints.api
      ["plus", "v1", "people", "me"] with
  | error error => simp [Endpoints.extend_eq_error url_eq]
  | ok place =>
    simp [Endpoints.extend_eq_ok_iff.1 url_eq, Exchange.fetchRequest_eq_ok_iff]

/-! ## Replies -/

/-- A token comes out of an answer with status 200 and a body from which it is read. -/
theorem tokenIn_eq_ok_iff {reply : Reply} {token : Secret} :
    tokenIn reply = .ok token ↔
      ∃ response rest, reply.outcome = .ok response ∧ response.status.code = 200 ∧
        Exchange.tokenRecord.read response.body = .ok (token, rest) := by
  unfold tokenIn
  cases reply.outcome with
  | error fault => simp
  | ok response =>
    simp only [Exchange.tokenOf, Http.Status.eq_ok_iff]
    by_cases accepted : response.status.code = 200
    · simp [accepted, Exchange.readBody_eq_ok_iff]
    · simp [accepted]

/-- The fields of a profile come out of an answer with any status and a body from which they are
read. -/
theorem fieldsIn_eq_ok_iff {reply : Reply} {fields : Dictionary Json.Value} :
    fieldsIn reply = .ok fields ↔
      ∃ response rest, reply.outcome = .ok response ∧
        Json.object response.body = .ok (fields, rest) := by
  unfold fieldsIn
  cases reply.outcome with
  | error fault => simp
  | ok response => simp [Exchange.readBody_eq_ok_iff]

end Google

end SignIn
