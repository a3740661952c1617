import SignIn.Duration
import SignIn.Http.Fault
import SignIn.Json.Failure
import SignIn.Text.Quoted
import SignIn.Url.Host

/-!
# Errors

Everything that can go wrong between a callback and an identity, by cause.  `Error.message` is the
text for people, `Error.isClientError` tells whether the one who sent the request is to blame.
-/

namespace SignIn

/-- The two round trips to the provider. -/
inductive Hop where
  /-- The code is exchanged for an access token. -/
  | token
  /-- The profile is fetched with the access token. -/
  | profile
deriving DecidableEq

/-- The name of a round trip. -/
def Hop.label : Hop → String
  | .token => "token"
  | .profile => "profile"

/-- What is wrong with the local configuration. -/
inductive ConfigError where
  /-- The client for outgoing requests cannot be set up. -/
  | clientBuild (cause : String)
  /-- An outgoing request cannot be built. -/
  | request (fault : Http.Fault)
  /-- An endpoint has no path that could be extended. -/
  | endpoint (name url : String)
  /-- The address to come back to is no URL. -/
  | redirect (cause : UrlError)
  /-- The client has no name. -/
  | emptyClientId
deriving DecidableEq

/-- What is wrong with the parts of an identity. -/
inductive IdentityError where
  /-- The name is empty. -/
  | emptyUrn
  /-- A part of the name is empty. -/
  | emptyPart (part : String)
  /-- The provider's name holds white space or a colon. -/
  | provider (name : String)
deriving DecidableEq

/-- How an exchange with the provider broke down. -/
inductive TransportError where
  /-- The network failed. -/
  | network (hop : Hop) (status : Option Nat) (cause : String)
  /-- Reading or writing failed. -/
  | io (hop : Hop) (cause : String)
  /-- Anything else. -/
  | other (hop : Hop) (status : Option Nat) (message : String)
deriving DecidableEq

/-- What is wrong with the provider's answers. -/
inductive ProviderError where
  /-- An answer has another status than it should have. -/
  | status (hop : Hop) (status : Nat) (body : String) (retryAfter : Option Duration)
  /-- An answer cannot be read. -/
  | parse (hop : Hop) (failure : Json.Failure)
  /-- An answer lacks what is needed most. -/
  | missingField (hop : Hop) (field : String)
  /-- There is no answer. -/
  | transport (error : TransportError)
deriving DecidableEq

/-- A header was read that is not there. -/
inductive LookUpError where
  /-- There are no headers of the name. -/
  | absent (name : String) (count : Nat) (known : List String)
  /-- There are fewer headers of the name. -/
  | exhausted (name : String) (available : Nat)
deriving DecidableEq

/-- Everything that can go wrong. -/
inductive Error where
  /-- The local configuration is wrong. -/
  | config (error : ConfigError)
  /-- An identity has wrong parts. -/
  | identity (error : IdentityError)
  /-- The provider or the way to it failed. -/
  | provider (error : ProviderError)
  /-- A header was read that is not there. -/
  | lookUp (error : LookUpError)
  /-- A message has no well-formed head. -/
  | malformedMessage (reason : String)
  /-- A header is needed but not there. -/
  | missingHeader (name : String) (known : List String)
  /-- A login was attempted in a wrong way, or the provider refuses the profile. -/
  | badRequest (reason : String)
deriving DecidableEq

/-! ## Texts -/

/-- The text of an error. -/
def ConfigError.message : ConfigError → String
  | .clientBuild _ => "HTTP client could not be constructed."
  | .request fault => fault.message
  | .endpoint name url => "The " ++ name ++ " endpoint cannot be used as a base URL: " ++ url ++ "."
  | .redirect _ => "Redirect URI is invalid."
  | .emptyClientId => "Client identifier cannot be empty."

/-- The text of an error. -/
def IdentityError.message : IdentityError → String
  | .emptyUrn => "Identity URN cannot be empty."
  | .emptyPart part => "The " ++ part ++ " part of an identity URN cannot be empty."
  | .provider name =>
    "Provider namespace `" ++ name ++ "` must not contain whitespace or `:`."

/-- The text of an error. -/
def TransportError.message : TransportError → String
  | .network hop _ _ => "Network error occurred while calling the " ++ hop.label ++ " endpoint."
  | .io hop _ => "I/O error occurred while calling the " ++ hop.label ++ " endpoint."
  | .other hop _ message =>
    "HTTP client error occurred while calling the " ++ hop.label ++ " endpoint: " ++ message ++ "."

/-- The text of an error. -/
def ProviderError.message : ProviderError → String
  | .status hop code body _ =>
    "The " ++ hop.label ++ " endpoint returned HTTP " ++ toString code ++ ": " ++ body ++ "."
  | .parse hop _ => "The " ++ hop.label ++ " endpoint returned malformed JSON."
  | .missingField hop field =>
    "The " ++ hop.label ++ " endpoint response is missing `" ++ field ++ "`."
  | .transport error => error.message

/-- The text of an error. -/
def LookUpError.message : LookUpError → String
  | .absent name count known =>
    "There are no headers by name \"" ++ name ++ "\" among " ++ toString count ++ " others: " ++
      Text.quoteList known ++ "."
  | .exhausted name available =>
    "There are only " ++ toString available ++ " headers by name \"" ++ name ++ "\"."

/-- The text of an error. -/
def Error.message : Error → String
  | .config error => error.message
  | .identity error => error.message
  | .provider error => error.message
  | .lookUp error => error.message
  | .malformedMessage reason => "Malformed message: " ++ reason ++ "."
  | .missingHeader name known =>
    "Header \"" ++ name ++ "\" is mandatory, not found among " ++ Text.quoteList known ++ "."
  | .badRequest reason => "Bad request: " ++ reason ++ "."

/-! ## Classes and causes -/

/-- Whether the one who sent the request is to blame. -/
def Error.isClientError : Error → Bool
  | .malformedMessage _ | .missingHeader _ _ | .lookUp _ | .badRequest _ => true
  | .config _ | .identity _ | .provider _ => false

/-- The status that came before the breakdown, if one came. -/
def TransportError.status? : TransportError → Option Nat
  | .network _ code _ | .other _ code _ => code
  | .io _ _ => none

/-- The text of the cause behind an error, where there is one. -/
def Error.cause? : Error → Option String
  | .config (.clientBuild cause) => some cause
  | .config (.redirect cause) => some cause.message
  | .provider (.transport (.network _ _ cause)) => some cause
  | .provider (.transport (.io _ cause)) => some cause
  | _ => none

end SignIn
