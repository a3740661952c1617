import SignIn.Json.Reader
import SignIn.Login.Flow
import SignIn.Secret
import SignIn.Url.Basic

/-!
# Round trips

The two exchanges with the provider: a form is posted and an access token comes back, and a JSON
object is fetched.
-/

namespace SignIn.Exchange

/-- The longest part of an answer's body that an error shows, in characters. -/
def previewLimit : Nat := 256

/-- The start of an answer's body as an error shows it. -/
def preview (body : Bytes) : String :=
  let text := Utf8.decodeLossy body
  String.ofList (if text.length ≤ previewLimit then text else text.take previewLimit ++ ['…'])

/-- Read a JSON value at the start of a body. -/
def readBody {α : Type} (hop : Hop) (reader : Json.Reader α) (body : Bytes) : Except Error α :=
  match reader body with
  | .ok (content, _) => .ok content
  | .error failure => .error (.provider (.parse hop failure))

/-- How the answer with an access token is written. -/
def tokenRecord : Json.Record (Option Secret) Secret where
  title := "struct TokenResponse"
  blank := none
  fields := [
    { name := "access_token", required := true
      filled := Option.isSome
      fill := fun _ => Secret.reader.map some }]
  finish := fun draft =>
    match draft with
    | some token => .ok token
    | none => .error (.missing "access_token")

/-- Send a request with an empty slot, and see what comes back. -/
def dispatch (hop : Hop) (request : Http.Request) :
    Flow (Except Error (Http.Response × Option Metadata)) :=
  .send .empty request fun reply =>
    .done (match reply.outcome with
      | .ok response => .ok (response, reply.slot.content)
      | .error fault => .error (fault.error hop reply.slot.content))

/-- The access token in an answer. -/
def tokenOf (response : Http.Response) (metadata : Option Metadata) : Except Error Secret :=
  if response.status = .ok then readBody .token tokenRecord.read response.body
  else
    .error (.provider (.status .token response.status.code (preview response.body)
      (metadata.bind (·.retryAfter))))

/-- The request that posts a form. -/
def formRequest (url : Url) (form : List (String × String)) : Except Http.Fault Http.Request :=
  Http.Request.build "POST" url.text .http11
    [("content-type", Utf8.encode "application/x-www-form-urlencoded".toList),
      ("accept", Utf8.encode "application/json".toList)]
    (Utf8.encode (Form.encode (form.map fun (name, value) => (name.toList, value.toList))))

/-- Post a form and read the access token that comes back. -/
def token (url : Url) (form : List (String × String)) : Flow (Except Error Secret) :=
  match formRequest url form with
  | .error fault => .done (.error (.config (.request fault)))
  | .ok request =>
    (dispatch .token request).bind fun answer =>
      .done (match answer with
        | .error error => .error error
        | .ok (response, metadata) => tokenOf response metadata)

/-- The request that fetches JSON. -/
def fetchRequest (url : Url) : Except Http.Fault Http.Request :=
  Http.Request.build "GET" url.text .http11
    [("accept", Utf8.encode "application/json".toList)] []

/-- Fetch an object; its status does not matter, since an object may itself tell of an error. -/
def fields (url : Url) : Flow (Except Error (Dictionary Json.Value)) :=
  match fetchRequest url with
  | .error fault => .done (.error (.config (.request fault)))
  | .ok request =>
    (dispatch .profile request).bind fun answer =>
      .done (match answer with
        | .error error => .error error
        | .ok (response, _) => readBody .profile Json.object response.body)

end SignIn.Exchange
