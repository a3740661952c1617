import SignIn.Http.Fields
import SignIn.Http.Status
import SignIn.Http.Target

/-!
# Requests and responses

What is sent out and what comes back.
-/

namespace SignIn.Http

/-- The version of the protocol. -/
inductive Version where
  /-- Version 0.9. -/
  | http09
  /-- Version 1.0. -/
  | http10
  /-- Version 1.1. -/
  | http11
  /-- Version 2. -/
  | http2
  /-- Version 3. -/
  | http3
deriving DecidableEq

/-- The text of a version. -/
def Version.text : Version → String
  | .http09 => "HTTP/0.9"
  | .http10 => "HTTP/1.0"
  | .http11 => "HTTP/1.1"
  | .http2 => "HTTP/2.0"
  | .http3 => "HTTP/3.0"

/-- What is asked for. -/
structure Method where
  /-- The characters of the method. -/
  chars : List Char
  /-- A method is a token. -/
  token : isToken chars = true
deriving DecidableEq

namespace Method

/-- The method that a text spells. -/
def read? (text : List Char) : Option Method :=
  if token : isToken text = true then some ⟨text, token⟩ else none

/-- Ask for something. -/
def get : Method := ⟨['G', 'E', 'T'], by decide⟩

/-- Hand something over. -/
def post : Method := ⟨['P', 'O', 'S', 'T'], by decide⟩

end Method

/-- A request. -/
structure Request where
  /-- What is asked for. -/
  method : Method
  /-- What is meant. -/
  target : Target
  /-- The version of the protocol. -/
  version : Version
  /-- The fields. -/
  fields : Fields
  /-- The body. -/
  body : Bytes
deriving DecidableEq

/-- A response. -/
structure Response where
  /-- The version of the protocol. -/
  version : Version
  /-- The status. -/
  status : Status
  /-- The fields. -/
  fields : Fields
  /-- The body. -/
  body : Bytes
deriving DecidableEq

/-- The request of the given parts; the first part that is at fault counts. -/
def Request.build (method target : String) (version : Version) (fields : List (String × Bytes))
    (body : Bytes) : Except Fault Request :=
  match Method.read? method.toList with
  | none => .error .method
  | some method =>
    match Target.read target.toList with
    | .error fault => .error (.target fault)
    | .ok target =>
      match Fields.read fields with
      | .error fault => .error fault
      | .ok fields => .ok ⟨method, target, version, fields, body⟩

/-- The response of the given parts; the first part that is at fault counts. -/
def Response.build (status : Nat) (version : Version) (fields : List (String × Bytes))
    (body : Bytes) : Except Fault Response :=
  match Status.read? status with
  | none => .error .status
  | some status =>
    match Fields.read fields with
    | .error fault => .error fault
    | .ok fields => .ok ⟨version, status, fields, body⟩

end SignIn.Http
