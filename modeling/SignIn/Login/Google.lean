import SignIn.Callback
import SignIn.Login.Exchange
import SignIn.Profile
import SignIn.Provider.Registration

/-!
# Logging in through Google

The way from a callback to an identity in four stages: the code is read from the callback, exchanged
for an access token, the profile is fetched with the token and turned into an identity.  Each stage
is reported.
-/

namespace SignIn.Google

/-- The name under which logins are reported. -/
def label : String := Profile.provider

/-- Report a stage around its work and go on with what it yields. -/
def observe {α β : Type} (stage : Stage) (work : Flow (Except Error α))
    (next : α → Flow (Except Error β)) : Flow (Except Error β) :=
  .report (.reached stage) (.report (.counted label stage .attempt)
    (work.bind fun result =>
      match result with
      | .ok content => .report (.counted label stage .success) (next content)
      | .error error => .report (.counted label stage .failure) (.done (.error error))))

/-- What is posted in exchange for an access token. -/
def form (registration : Registration) (code : String) : List (String × String) :=
  [("client_id", registration.clientId), ("redirect_uri", registration.redirectUri),
    ("client_secret", registration.clientSecret.exposed), ("grant_type", "authorization_code"),
    ("code", code)]

/-- Exchange a code for an access token. -/
def exchange (registration : Registration) (code : String) : Flow (Except Error Secret) :=
  match registration.endpoints.oauthUrl ["o", "oauth2", "token"] with
  | .error error => .done (.error (.config error))
  | .ok url => Exchange.token url (form registration code)

/-- Fetch a profile with an access token. -/
def fetch (registration : Registration) (token : Secret) :
    Flow (Except Error (Dictionary Json.Value)) :=
  match registration.endpoints.apiUrl ["plus", "v1", "people", "me"] with
  | .error error => .done (.error (.config error))
  | .ok url => Exchange.fields (url.appendPair "access_token" token.exposed)

/-- The four stages. -/
def authenticate (registration : Registration) (message : Message) :
    Flow (Except Error Identity) :=
  observe .awaitingCode (.done (Callback.code message)) fun code =>
  observe .exchangingToken (exchange registration code) fun token =>
  observe .fetchingProfile (fetch registration token) fun fields =>
  observe .parsingProfile (.done (Profile.identityOf fields)) fun identity =>
  .done (.ok identity)

/-- Find out who has come back with a request. -/
def enter (registration : Registration) (message : Message) : Flow (Except Error Identity) :=
  .report (.opened label "enter") (authenticate registration message)

/-- What a diagnostic shows of a login through Google. -/
def describe (registration : Registration) : String :=
  "GooglePass \x7b config: " ++ registration.describe ++ " \x7d"

/-! ## The way there -/

/-- What is asked of the user. -/
def scope : String := "https://www.googleapis.com/auth/userinfo.profile"

/-- The length of a state. -/
def stateLength : Nat := 32

/-- A state: letters and digits by which a login is recognised. -/
structure LoginState where
  /-- The characters. -/
  chars : List Char
  /-- All states are of one length. -/
  length_eq : chars.length = stateLength
  /-- A state consists of ASCII letters and digits. -/
  alphanumeric : chars.all Char.isAlphanum = true
deriving DecidableEq

/-- The text of a state. -/
def LoginState.text (state : LoginState) : String := String.ofList state.chars

/-- What the user is sent to, and how the user is recognised. -/
structure Authorization where
  /-- Where the user logs in. -/
  url : Url
  /-- What comes back with the user. -/
  state : String
deriving DecidableEq

namespace Authorization

/-- Check what has come back. -/
def validate (authorization : Authorization) (returned : String) : Except Error Unit :=
  if returned = authorization.state then .ok ()
  else .error (.badRequest "authorization state mismatch")

end Authorization

/-- The named values of a login link. -/
def linkPairs (registration : Registration) (state : LoginState) : List (String × String) :=
  [("client_id", registration.clientId), ("redirect_uri", registration.redirectUri),
    ("response_type", "code"), ("scope", scope), ("state", state.text)]

/-- The login link with a given state. -/
def authorization (registration : Registration) (state : LoginState) :
    Except Error Authorization :=
  match registration.endpoints.oauthUrl ["o", "oauth2", "auth"] with
  | .error error => .error (.config error)
  | .ok url =>
    .ok ⟨(linkPairs registration state).foldl
      (fun url (name, value) => url.appendPair name value) url, state.text⟩

/-- Send a user on the way with a given state. -/
def start (registration : Registration) (state : LoginState) :
    Flow (Except Error Authorization) :=
  .report (.opened label "start_authorization") (.done (authorization registration state))

end SignIn.Google
