import SignIn.RetryAfter
import SignIn.Transport
import SignIn.Url.Parse

/-!
# The client

A transport over a network.  The head of an answer is noted in the slot before the body is read, so
that a failure in between can still tell the status.
-/

namespace SignIn.Client

/-- What the network makes of a request. -/
inductive Delivery where
  /-- No head of an answer arrives. -/
  | lost (cause : String)
  /-- A head arrives, and then a body, unless reading it fails. -/
  | answered (status : Http.Status) (fields : Http.Fields) (body : Except String Bytes)

/-- The schemes that the client knows. -/
def schemes : List (List Char) := ["http".toList, "https".toList]

/-- Whether the client can send a request at all. -/
def canSend (request : Http.Request) : Bool :=
  match Url.parse request.target.chars with
  | .ok url => schemes.contains url.scheme
  | .error _ => false

/-- What is said of a request that cannot be sent.  It tells the URL if there is one. -/
def refusal (request : Http.Request) : String :=
  match Url.parse request.target.chars with
  | .ok url => "builder error for url (" ++ url.text ++ ")"
  | .error _ => "builder error"

/-- The metadata of a head that arrives at a given moment. -/
def metadata (now : Moment) (response : Http.Response) : Metadata :=
  ⟨some response.status.code, RetryAfter.ofMessage now response.message⟩

/-- Send a request at a given moment.  What was in the slot before is gone. -/
def call (now : Moment) (deliver : Http.Request → Delivery) (slot : Slot)
    (request : Http.Request) : Reply :=
  let emptied := slot.take.2
  if canSend request then
    match deliver request with
    | .lost cause => ⟨emptied, .error (.network none cause)⟩
    | .answered status fields body =>
      let head : Http.Response := ⟨.http11, status, fields, []⟩
      ⟨emptied.store (metadata now head),
        match body with
        | .ok bytes => .ok { head with body := bytes }
        | .error cause => .error (.network none cause)⟩
  else ⟨emptied, .error (.builder (refusal request))⟩

end SignIn.Client
