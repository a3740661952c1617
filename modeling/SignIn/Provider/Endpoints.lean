import SignIn.Error
import SignIn.Json.Reader
import SignIn.Url.Parse

/-!
# Endpoints

The two places of a provider, below which its services lie.
-/

namespace SignIn

/-- The places of a provider. -/
structure Endpoints where
  /-- Where users log in and codes are exchanged. -/
  oauth : Url
  /-- Where profiles are. -/
  api : Url
deriving DecidableEq

namespace Endpoints

/-- The root of a host that is reached securely. -/
def secureRoot (host : String) : Url :=
  ⟨"https".toList, some ⟨[], none, some (.name host.toList), none⟩, false, .rooted [[]], none, none⟩

/-- The places of Google. -/
def google : Endpoints := ⟨secureRoot "accounts.google.com", secureRoot "www.googleapis.com"⟩

/-- A place with segments added to its path. -/
def extend (name : String) (base : Url) (segments : List String) : Except ConfigError Url :=
  match base.extend? segments with
  | some url => .ok url
  | none => .error (.endpoint name base.text)

/-- A place below the login. -/
def oauthUrl (endpoints : Endpoints) (segments : List String) : Except ConfigError Url :=
  extend "oauth" endpoints.oauth segments

/-- A place below the profiles. -/
def apiUrl (endpoints : Endpoints) (segments : List String) : Except ConfigError Url :=
  extend "api" endpoints.api segments

/-! ## As JSON -/

/-- The places as a value. -/
def value (endpoints : Endpoints) : Json.Value :=
  .object [("oauth", .string endpoints.oauth.text), ("api", .string endpoints.api.text)]

/-- The URL that a text spells. -/
def urlOf (text : String) : Except Json.Fault Url :=
  match Url.ofString text with
  | .ok url => .ok url
  | .error error => .error (.rejected (error.message ++ ": " ++ Text.quote text))

/-- Read a URL. -/
def urlReader : Json.Reader Url :=
  (Json.Form.read ⟨"a string representing an URL", Json.Value.text?, none, none⟩).refine urlOf

/-- What has been read of the places. -/
structure Draft where
  /-- Where users log in. -/
  oauth : Option Url := none
  /-- Where profiles are. -/
  api : Option Url := none

/-- The places of a whole draft. -/
def ofDraft (draft : Draft) : Except Json.Fault Endpoints :=
  match draft.oauth, draft.api with
  | none, _ => .error (.missing "oauth")
  | some _, none => .error (.missing "api")
  | some oauth, some api => .ok ⟨oauth, api⟩

/-- How the places are written. -/
def record : Json.Record Draft Endpoints where
  title := "struct ProviderEndpoints"
  blank := {}
  fields := [
    { name := "oauth", required := true
      filled := fun draft => draft.oauth.isSome
      fill := fun draft => urlReader.map fun url => { draft with oauth := some url } },
    { name := "api", required := true
      filled := fun draft => draft.api.isSome
      fill := fun draft => urlReader.map fun url => { draft with api := some url } }]
  finish := ofDraft

/-- Read the places. -/
def reader : Json.Reader Endpoints := record.read

/-- Whether two pairs of places have the same texts. -/
def sameTexts (left right : Endpoints) : Bool :=
  left.oauth.text == right.oauth.text && left.api.text == right.api.text

/-- The places as a diagnostic shows them. -/
def describe (endpoints : Endpoints) : String :=
  "ProviderEndpoints \x7b oauth: " ++ endpoints.oauth.describe ++ ", api: " ++
    endpoints.api.describe ++ " \x7d"

end Endpoints

end SignIn
