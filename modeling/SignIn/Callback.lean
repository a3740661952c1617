import SignIn.Header
import SignIn.Url.Parse

/-!
# Callbacks

The request with which a user comes back: the URL that it is for, and the code that it carries.
-/

namespace SignIn.Callback

/-- The host of a request that names none. -/
def defaultHost : String := "localhost"

/-- The second word of a request's first line. -/
def target (message : Message) : Except Error String :=
  match message.head with
  | [] => .error (.malformedMessage "head must contain at least one line")
  | line :: _ =>
    match (Text.words line.toList)[1]? with
    | some word => .ok (String.ofList word)
    | none => .error (.malformedMessage ("request line has no target: " ++ line))

/-- The root of the host that a request names. -/
def base (host : String) : Except Error Url :=
  match Url.ofString ("http://" ++ host ++ "/") with
  | .ok url => .ok url
  | .error _ => .error (.malformedMessage ("invalid host: " ++ host))

/-- A target resolved against the host that a request names. -/
def resolve (message : Message) (target : String) : Except Error Url :=
  match message.singleOr "host" defaultHost with
  | .error error => .error error
  | .ok host =>
    match base host with
    | .error error => .error error
    | .ok root =>
      match root.join target.toList with
      | .ok url => .ok url
      | .error _ => .error (.malformedMessage ("invalid request target: " ++ target))

/-- The URL that a request is for.  A target that is a URL stands for itself. -/
def url (message : Message) : Except Error Url :=
  match target message with
  | .error error => .error error
  | .ok target =>
    match Url.ofString target with
    | .ok url => .ok url
    | .error _ => resolve message target

/-- What is said of a callback without a code. -/
def missingCode : String := "code is not provided by google, probably some mistake"

/-- What is said of a callback without a code that may name an error. -/
def missingCodeReason : Option String → String
  | some error => missingCode ++ " (error: " ++ error ++ ")"
  | none => missingCode

/-- The code that a URL carries. -/
def codeOf (url : Url) : Except Error String :=
  match url.parameter? "code" with
  | none | some "" => .error (.badRequest (missingCodeReason (url.parameter? "error")))
  | some code => .ok code

/-- The code that a request carries. -/
def code (message : Message) : Except Error String :=
  match url message with
  | .error error => .error error
  | .ok url => codeOf url

end SignIn.Callback
