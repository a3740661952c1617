import SignIn.Text.Quoted
import SignIn.Url.Form
import SignIn.Url.Host
import SignIn.Url.Path

/-!
# URLs

A URL in its parts, each in the form in which it is written.  `Url.text` puts the parts together.
-/

namespace SignIn

/-- Who is asked, and as whom. -/
structure Authority where
  /-- The user's name, which may be empty. -/
  username : List Char
  /-- The password, which is not empty. -/
  password : Option (List Char)
  /-- The machine. -/
  host : Option Host
  /-- The port, unless it is the scheme's own. -/
  port : Option Nat
deriving DecidableEq

/-- A uniform resource locator. -/
structure Url where
  /-- The scheme in lower case. -/
  scheme : List Char
  /-- The authority; a URL without one has no double slash after its scheme. -/
  authority : Option Authority
  /-- Whether `/.` stands in front of a path that would else look like an authority. -/
  shielded : Bool
  /-- The path. -/
  path : UrlPath
  /-- What follows the question mark. -/
  query : Option (List Char)
  /-- What follows the hash. -/
  fragment : Option (List Char)
deriving DecidableEq

/-- The family of a scheme. -/
def schemeKind (scheme : List Char) : SchemeKind :=
  let name := String.ofList scheme
  if name == "file" then .file
  else if ["http", "https", "ws", "wss", "ftp"].contains name then .web
  else .other

/-- The port that a scheme uses when none is given. -/
def defaultPort? (scheme : List Char) : Option Nat :=
  match String.ofList scheme with
  | "http" | "ws" => some 80
  | "https" | "wss" => some 443
  | "ftp" => some 21
  | _ => none

namespace Authority

/-- The text in front of the host. -/
def userInfo (authority : Authority) : List Char :=
  match authority.password with
  | some password => authority.username ++ ':' :: (password ++ ['@'])
  | none => if authority.username.isEmpty then [] else authority.username ++ ['@']

/-- The text of the host. -/
def hostText (authority : Authority) : List Char :=
  match authority.host with
  | some host => host.text
  | none => []

/-- The text after the host. -/
def portText (authority : Authority) : List Char :=
  match authority.port with
  | some port => ':' :: Nat.toDigits 10 port
  | none => []

/-- The text of an authority. -/
def text (authority : Authority) : List Char :=
  authority.userInfo ++ authority.hostText ++ authority.portText

end Authority

namespace Url

/-- The family of the scheme. -/
def kind (url : Url) : SchemeKind := schemeKind url.scheme

/-- Whether a path of segments can be put after this URL. -/
def canBeBase (url : Url) : Bool :=
  match url.path with
  | .flat _ => false
  | .rooted _ => true

/-- The text between the scheme and the path. -/
def place (url : Url) : List Char :=
  match url.authority with
  | some authority => '/' :: '/' :: authority.text
  | none => if url.shielded then ['/', '.'] else []

/-- A part with the sign in front of it. -/
def marked (sign : Char) : Option (List Char) → List Char
  | none => []
  | some part => sign :: part

/-- The text of a URL. -/
def chars (url : Url) : List Char :=
  url.scheme ++ ':' :: (url.place ++ url.path.text ++ marked '?' url.query ++
    marked '#' url.fragment)

/-- The text of a URL. -/
def text (url : Url) : String := String.ofList url.chars

/-- The named values of the query in order. -/
def queryPairs (url : Url) : List (List Char × List Char) :=
  match url.query with
  | some query => Form.decode query
  | none => []

/-- The value of the first pair of a name in the query. -/
def parameter? (url : Url) (name : String) : Option String :=
  (url.queryPairs.find? fun pair => pair.1 == name.toList).map fun pair => String.ofList pair.2

/-! ## Changes -/

/-- Add a named value at the end of the query. -/
def appendPair (url : Url) (name value : String) : Url :=
  let pair := Form.encodePair (name.toList, value.toList)
  { url with
    query := some (match url.query with
      | none | some [] => pair
      | some query => query ++ '&' :: pair) }

/-- A segment that is given on its own, as it is written. -/
def encodeSegment (kind : SchemeKind) (segment : List Char) : List Char :=
  Percent.encode (if kind.isSpecial then Percent.inSpecialSegment else Percent.inSegment)
    (segment.filter fun char => char != '\t' && char != '\n' && char != '\r')

/-- Add one segment to others.  One that consists of dots is left out, and the only segment of a
root is replaced. -/
def pushSegment (kind : SchemeKind) (segments : List (List Char)) (segment : List Char) :
    List (List Char) :=
  if segment = ['.'] ∨ segment = ['.', '.'] then segments
  else
    let before := if segments = [[]] then [] else segments.reverse
    let pushed := UrlPath.walk kind before [encodeSegment kind segment]
    if kind = .file then UrlPath.collapse pushed else pushed

/-- The segments without the empty one at the end, unless it is the only one. -/
def dropEmptyEnd (segments : List (List Char)) : List (List Char) :=
  if 1 < segments.length ∧ segments.getLast? = some [] then segments.dropLast else segments

/-- The URL with segments added to its path, if it can be a base.  A slash at the end of the path is
not doubled. -/
def extend? (url : Url) (segments : List String) : Option Url :=
  match url.path with
  | .flat _ => none
  | .rooted own =>
    some { url with
      path := .rooted ((segments.map String.toList).foldl (pushSegment url.kind)
        (dropEmptyEnd own)) }

/-! ## Diagnostics -/

/-- The host as a diagnostic shows it. -/
def describeHost : Host → String
  | .name text => "Domain(" ++ Text.quote (String.ofList text) ++ ")"
  | .ipv4 address => "Ipv4(" ++ String.ofList address.text ++ ")"
  | .ipv6 address => "Ipv6(" ++ String.ofList address.mixedText ++ ")"

/-- An optional part as a diagnostic shows it. -/
def describeOption {α : Type} (describePart : α → String) : Option α → String
  | none => "None"
  | some part => "Some(" ++ describePart part ++ ")"

/-- A text as a diagnostic shows it. -/
def describeText (text : List Char) : String := Text.quote (String.ofList text)

/-- The parts of a URL as a diagnostic shows them. -/
def describe (url : Url) : String :=
  let authority := url.authority.getD ⟨[], none, none, none⟩
  "Url \x7b scheme: " ++ describeText url.scheme ++
    ", cannot_be_a_base: " ++ toString (!url.canBeBase) ++
    ", username: " ++ describeText authority.username ++
    ", password: " ++ describeOption describeText authority.password ++
    ", host: " ++ describeOption describeHost authority.host ++
    ", port: " ++ describeOption toString authority.port ++
    ", path: " ++ describeText url.path.text ++
    ", query: " ++ describeOption describeText url.query ++
    ", fragment: " ++ describeOption describeText url.fragment ++ " \x7d"

end Url

end SignIn
