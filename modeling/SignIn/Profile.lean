import SignIn.Identity

/-!
# Profiles

What Google says about a user, and the identity that follows from it.  A profile may hold an error
instead, which counts whatever else there is.
-/

namespace SignIn

/-- The fields of a profile that matter. -/
structure Profile where
  /-- Who the user is at Google. -/
  id : Option String
  /-- What the user is called. -/
  name : Option String
  /-- Where a picture of the user is. -/
  picture : Option String
deriving DecidableEq

namespace Profile

/-! ## Reading -/

/-- A text that may be null. -/
def textField (value : Json.Value) : Except Json.Failure (Option String) :=
  match value with
  | .null => .ok none
  | .string text => .ok (some text)
  | other => .error (.here (.mismatch other.describe "a string"))

/-- One step further in. -/
def within {α : Type} (step : Json.Step) (result : Except Json.Failure α) :
    Except Json.Failure α := result.mapError (Json.Failure.inside step)

/-- The address in an image that is written as a list of one. -/
def listedImage (items : List Json.Value) : Except Json.Failure (Option String) :=
  match items with
  | [] => .ok none
  | first :: others =>
    match within (.element 0) (textField first) with
    | .error failure => .error failure
    | .ok text =>
      if others.isEmpty then .ok text
      else .error (.here (.wrongLength items.length "fewer elements in array"))

/-- The address in an image. -/
def image (value : Json.Value) : Except Json.Failure (Option String) :=
  match value with
  | .null => .ok none
  | .object members =>
    match Dictionary.lookUp? "url" members with
    | some url => within (.member "url") (textField url)
    | none => .ok none
  | .array items => listedImage items
  | other => .error (.here (.mismatch other.describe "struct GoogleImage"))

/-- One member of a profile, null if it is not there. -/
def member {α : Type} (fields : Dictionary Json.Value) (name : String)
    (read : Json.Value → Except Json.Failure α) : Except Json.Failure α :=
  within (.member name) (read ((fields.get? name).getD .null))

/-- Read a profile; the fields are looked at in the order of their names. -/
def read (fields : Dictionary Json.Value) : Except Json.Failure Profile :=
  match member fields "displayName" textField with
  | .error failure => .error failure
  | .ok name =>
    match member fields "id" textField with
    | .error failure => .error failure
    | .ok id =>
      match member fields "image" image with
      | .error failure => .error failure
      | .ok picture => .ok ⟨id, name, picture⟩

/-! ## The identity -/

/-- The provider's name. -/
def provider : String := "google"

/-- What a user without a name is called. -/
def defaultName : String := "unknown"

/-- The picture of a user without one. -/
def defaultPicture : String := "#"

/-- The properties that follow from a profile. -/
def properties (profile : Profile) : List (String × String) :=
  [("name", profile.name.getD defaultName), ("picture", profile.picture.getD defaultPicture)]

/-- The identity that follows from a profile. -/
def identity (profile : Profile) : Except Error Identity :=
  match profile.id with
  | none | some "" => .error (.provider (.missingField .profile "id"))
  | some id => (Identity.namespaced provider id profile.properties).mapError .identity

/-- What an error in a profile says. -/
def errorText (error : Json.Value) : String :=
  match error with
  | .string text => text
  | .object members =>
    match Dictionary.lookUp? "message" members with
    | some (.string text) => text
    | _ => error.render
  | other => other.render

/-- The identity that follows from the fields of a profile. -/
def identityOf (fields : Dictionary Json.Value) : Except Error Identity :=
  match fields.get? "error" with
  | some error =>
    .error (.badRequest
      ("could not retrieve id from google, possible cause: " ++ errorText error))
  | none =>
    match read fields with
    | .error failure => .error (.provider (.parse .profile failure))
    | .ok profile => profile.identity

end Profile

end SignIn
