import SignIn.Provider.Endpoints
import SignIn.Secret

/-!
# Registrations

What a provider and an application agreed on: the application's name and secret, the address to
which users come back, and where the provider is found.
-/

namespace SignIn

/-- Whether a text is a URL. -/
def isUrl (text : String) : Bool := (Url.ofString text).toOption.isSome

/-- An application that is known to a provider. -/
structure Registration where
  /-- The application's name. -/
  clientId : String
  /-- The application's secret. -/
  clientSecret : Secret
  /-- Where users come back to, exactly as registered. -/
  redirectUri : String
  /-- Where the provider is found. -/
  endpoints : Endpoints
  /-- A name is never empty. -/
  clientId_ne_empty : clientId ≠ ""
  /-- Users come back to a URL. -/
  redirectUri_isUrl : isUrl redirectUri = true

namespace Registration

/-- The registration of the given parts. -/
def make (clientId : String) (clientSecret : Secret) (redirectUri : String)
    (endpoints : Endpoints) : Except ConfigError Registration :=
  if unnamed : clientId = "" then .error .emptyClientId
  else
    match read : Url.ofString redirectUri with
    | .error error => .error (.redirect error)
    | .ok _ =>
      .ok ⟨clientId, clientSecret, redirectUri, endpoints, unnamed, by
        simp [isUrl, read, Except.toOption]⟩

/-- The registration of the given parts at Google. -/
def new (clientId clientSecret redirectUri : String) : Except ConfigError Registration :=
  make clientId ⟨clientSecret⟩ redirectUri .google

/-- The same registration at another place. -/
def withEndpoints (registration : Registration) (endpoints : Endpoints) : Registration :=
  { registration with endpoints }

/-- Whether two registrations are of the same application; where the provider is found does not
matter. -/
def sameApplication (left right : Registration) : Bool :=
  left.clientId == right.clientId && left.clientSecret == right.clientSecret &&
    left.redirectUri == right.redirectUri

/-! ## As JSON -/

/-- A registration as a value. -/
def value (registration : Registration) : Json.Value :=
  .object [("client_id", .string registration.clientId),
    ("client_secret", registration.clientSecret.value),
    ("redirect_uri", .string registration.redirectUri),
    ("endpoints", registration.endpoints.value)]

/-- What has been read of a registration. -/
structure Draft where
  /-- The application's name. -/
  clientId : Option String := none
  /-- The application's secret. -/
  clientSecret : Option Secret := none
  /-- Where users come back to. -/
  redirectUri : Option String := none
  /-- Where the provider is found, which may be left open. -/
  endpoints : Option (Option Endpoints) := none

/-- The first field that a draft lacks. -/
def Draft.missing? (draft : Draft) : Option String :=
  if draft.clientId.isNone then some "client_id"
  else if draft.clientSecret.isNone then some "client_secret"
  else if draft.redirectUri.isNone then some "redirect_uri"
  else none

/-- How a registration is written. -/
def record : Json.Record Draft Draft where
  title := "struct ProviderConfigRepr"
  blank := {}
  fields := [
    { name := "client_id", required := true
      filled := fun draft => draft.clientId.isSome
      fill := fun draft => Json.text.map fun text => { draft with clientId := some text } },
    { name := "client_secret", required := true
      filled := fun draft => draft.clientSecret.isSome
      fill := fun draft => Secret.reader.map fun secret =>
        { draft with clientSecret := some secret } },
    { name := "redirect_uri", required := true
      filled := fun draft => draft.redirectUri.isSome
      fill := fun draft => Json.text.map fun text => { draft with redirectUri := some text } },
    { name := "endpoints", required := false
      filled := fun draft => draft.endpoints.isSome
      fill := fun draft => (Json.nullable Endpoints.reader).map fun endpoints =>
        { draft with endpoints := some endpoints } }]
  finish := fun draft =>
    match draft.missing? with
    | some name => .error (.missing name)
    | none => .ok draft

/-- The registration of a whole draft. -/
def ofDraft (draft : Draft) : Except Json.Fault Registration :=
  let endpoints := (draft.endpoints.getD none).getD .google
  match make (draft.clientId.getD "") (draft.clientSecret.getD ⟨""⟩) (draft.redirectUri.getD "")
      endpoints with
  | .ok registration => .ok registration
  | .error error => .error (.rejected error.message)

/-- Read a registration. -/
def reader : Json.Reader Registration := record.read.refine ofDraft

/-- A registration as a diagnostic shows it. -/
def describe (registration : Registration) : String :=
  "ProviderConfig \x7b client_id: " ++ Text.quote registration.clientId ++
    ", client_secret: " ++ registration.clientSecret.describe ++
    ", redirect_uri: " ++ Text.quote registration.redirectUri ++
    ", endpoints: " ++ registration.endpoints.describe ++ " \x7d"

end Registration

end SignIn
