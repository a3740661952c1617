import SignIn.Url.Basic

/-!
# Reading URLs

`Url.parse` reads a URL, `Url.join` a reference to be resolved against another URL.  Both accept far
more than they write: blanks at the ends and line breaks anywhere are ignored, and everything that
needs it is percent-encoded.
-/

namespace SignIn.Url

/-- Whether a character is ignored at either end of a text. -/
def isMargin (char : Char) : Bool := char.toNat ≤ 0x20

/-- Whether a character is ignored wherever it stands. -/
def isBreak (char : Char) : Bool := char == '\t' || char == '\n' || char == '\r'

/-- The text that is read. -/
def clean (text : List Char) : List Char :=
  (((text.dropWhile isMargin).reverse.dropWhile isMargin).reverse).filter (!isBreak ·)

/-- Whether a character may stand inside a scheme. -/
def inScheme (char : Char) : Bool :=
  char.isAlphanum || char == '+' || char == '-' || char == '.'

/-- The scheme in lower case and the text after its colon. -/
def splitScheme? (text : List Char) : Option (List Char × List Char) :=
  match text with
  | [] => none
  | first :: _ =>
    match text.dropWhile inScheme with
    | ':' :: rest =>
      if first.isAlpha then some ((text.takeWhile inScheme).map Char.toLower, rest) else none
    | _ => none

/-- Cut a text at the first occurrence of a sign. -/
def cutAt (sign : Char) (text : List Char) : List Char × Option (List Char) :=
  match text.dropWhile (· != sign) with
  | [] => (text, none)
  | _ :: rest => (text.takeWhile (· != sign), some rest)

/-- The parts of a text after the scheme, as they are given. -/
structure Parts where
  /-- All up to the query. -/
  main : List Char
  /-- The query. -/
  query : Option (List Char)
  /-- The fragment. -/
  fragment : Option (List Char)

/-- Cut a text into its parts. -/
def parts (text : List Char) : Parts :=
  let outer := cutAt '#' text
  let inner := cutAt '?' outer.1
  ⟨inner.1, inner.2, outer.2⟩

namespace Parts

/-- Whether nothing follows the main part. -/
def isBare (parts : Parts) : Bool := parts.query.isNone && parts.fragment.isNone

/-- The query as it is written. -/
def encodedQuery (parts : Parts) (kind : SchemeKind) : Option (List Char) :=
  parts.query.map
    (Percent.encode (if kind.isSpecial then Percent.inSpecialQuery else Percent.inQuery))

/-- The fragment as it is written. -/
def encodedFragment (parts : Parts) : Option (List Char) :=
  parts.fragment.map (Percent.encode Percent.inFragment)

end Parts

/-- Whether a character separates the authority from the path. -/
def isSlash (kind : SchemeKind) (char : Char) : Bool :=
  char == '/' || (kind.isSpecial && char == '\\')

/-- A text without one slash at its start. -/
def dropSlash (kind : SchemeKind) (text : List Char) : List Char :=
  match text with
  | [] => []
  | first :: rest => if isSlash kind first then rest else text

/-! ## Authorities -/

/-- The text before and after the last at sign. -/
def splitUser (text : List Char) : Option (List Char) × List Char :=
  let after := (text.reverse.takeWhile (· != '@')).reverse
  if after.length = text.length then (none, text)
  else (some (text.take (text.length - after.length - 1)), after)

/-- The user's name and the password, as they are written. -/
def readUser (text : List Char) : List Char × Option (List Char) :=
  let encode := Percent.encode Percent.inUserInfo
  match cutAt ':' text with
  | (name, none) | (name, some []) => (encode name, none)
  | (name, some password) => (encode name, some (encode password))

/-- The host and what follows it from the colon on; colons inside brackets do not count. -/
def splitHost : Bool → List Char → List Char × List Char
  | _, [] => ([], [])
  | bracketed, char :: rest =>
    if char = ':' ∧ bracketed = false then ([], char :: rest)
    else
      let inside := if char = '[' then true else if char = ']' then false else bracketed
      let split := splitHost inside rest
      (char :: split.1, split.2)

/-- The port after a host, and the text that belongs to the path. -/
def readPort (scheme : List Char) (text : List Char) :
    Except UrlError (Option Nat × List Char) :=
  match text with
  | ':' :: given =>
    let digits := given.takeWhile Char.isDigit
    let number := (digitsIn? decimalDigit? 10 digits).getD 0
    match given.dropWhile Char.isDigit with
    | [] | '\\' :: _ =>
      if 65535 < number then .error .port
      else
        .ok (if digits.isEmpty ∨ defaultPort? scheme = some number then none else some number,
          given.dropWhile Char.isDigit)
    | _ => .error .port
  | _ => .ok (none, text)

/-- The host of an authority. -/
def readHost (kind : SchemeKind) (host after : List Char) : Except UrlError (Option Host) :=
  match kind with
  | .other =>
    match Host.readPlain host with
    | .error error => .error error
    | .ok none => if after.isEmpty then .ok none else .error .emptyHost
    | .ok (some found) => .ok (some found)
  | _ => if host.isEmpty then .error .emptyHost else (Host.read host).map some

/-- An authority, and what of its text belongs to the path.  `ended` says that nothing follows. -/
def readAuthority (scheme : List Char) (ended : Bool) (text : List Char) :
    Except UrlError (Authority × List Char) :=
  let kind := schemeKind scheme
  let split := splitUser text
  if split = (some [], []) ∧ ended = false then .error .emptyHost
  else
    let user := readUser (split.1.getD [])
    let address := splitHost false split.2
    match readHost kind address.1 address.2 with
    | .error error => .error error
    | .ok host =>
      match readPort scheme address.2 with
      | .error error => .error error
      | .ok (port, rest) =>
        if host = none ∧ (user.1 ≠ [] ∨ user.2 ≠ none) then .error .emptyHost
        else .ok (⟨user.1, user.2, host, port⟩, rest)

/-- The segments after an authority.  Only an unknown scheme can do without. -/
def readPath (kind : SchemeKind) (text : List Char) : List (List Char) :=
  if kind = .other ∧ text = [] then [] else UrlPath.resolve kind [] (dropSlash kind text)

/-- A URL whose authority starts here. -/
def readFromAuthority (scheme : List Char) (parts : Parts) (text : List Char) :
    Except UrlError Url :=
  let kind := schemeKind scheme
  let authorityText := text.takeWhile (!isSlash kind ·)
  let after := text.dropWhile (!isSlash kind ·)
  match readAuthority scheme (after.isEmpty && parts.isBare) authorityText with
  | .error error => .error error
  | .ok (authority, rest) =>
    .ok ⟨scheme, some authority, false, .rooted (readPath kind (rest ++ after)),
      parts.encodedQuery kind, parts.encodedFragment⟩

/-! ## Files -/

/-- A file of a machine, without one if none is given. -/
def fileOf (host : Option Host) (segments : List (List Char)) (parts : Parts) : Url :=
  let drive := (segments.head?.map UrlPath.isDrive).getD false
  ⟨['f', 'i', 'l', 'e'], some ⟨[], none, if drive then none else host, none⟩, false,
    .rooted (UrlPath.collapse segments), parts.encodedQuery .file, parts.encodedFragment⟩

/-- A file whose host is given by a text; the local machine counts as none. -/
def fileAt (hostText path : List Char) (parts : Parts) : Except UrlError Url :=
  if hostText.isEmpty then .ok (fileOf none (UrlPath.resolve .file [] path) parts)
  else
    match Host.read hostText with
    | .error error => .error error
    | .ok host =>
      if host = .name "localhost".toList then
        .ok (fileOf none (UrlPath.resolve .file [] path) parts)
      else .ok (fileOf (some host) (UrlPath.resolve .file [] (dropSlash .file path)) parts)

/-- The URL of a file. -/
def readFile (parts : Parts) : Except UrlError Url :=
  match parts.main with
  | first :: second :: rest =>
    if isSlash .file first then
      if isSlash .file second then
        let hostText := rest.takeWhile (!isSlash .file ·)
        if UrlPath.isDrive hostText then
          .ok (fileOf none (UrlPath.resolve .file [] rest) parts)
        else fileAt hostText (rest.dropWhile (!isSlash .file ·)) parts
      else .ok (fileOf none (UrlPath.resolve .file [] (second :: rest)) parts)
    else .ok (fileOf none (UrlPath.resolve .file [] parts.main) parts)
  | main => .ok (fileOf none (UrlPath.resolve .file [] (dropSlash .file main)) parts)

/-! ## Whole URLs -/

/-- Whether segments would look like an authority if they followed the scheme. -/
def needsShield (segments : List (List Char)) : Bool :=
  match segments with
  | [] :: _ :: _ => true
  | _ => false

/-- The URL of an unknown scheme. -/
def readOther (scheme : List Char) (parts : Parts) : Except UrlError Url :=
  match parts.main with
  | '/' :: '/' :: rest => readFromAuthority scheme parts rest
  | '/' :: rest =>
    let segments := UrlPath.resolve .other [] rest
    .ok ⟨scheme, none, needsShield segments, .rooted segments, parts.encodedQuery .other,
      parts.encodedFragment⟩
  | text =>
    .ok ⟨scheme, none, false, .flat (Percent.encode Percent.isControl text),
      parts.encodedQuery .other, parts.encodedFragment⟩

/-- A URL after its scheme. -/
def readAfterScheme (scheme text : List Char) : Except UrlError Url :=
  let parts := parts text
  match schemeKind scheme with
  | .file => readFile parts
  | .web => readFromAuthority scheme parts (parts.main.dropWhile (isSlash .web))
  | .other => readOther scheme parts

/-- Read a URL. -/
def parse (text : List Char) : Except UrlError Url :=
  match splitScheme? (clean text) with
  | some (scheme, rest) => readAfterScheme scheme rest
  | none => .error .noBase

/-! ## References -/

/-- Read a URL from a string. -/
def ofString (text : String) : Except UrlError Url := parse text.toList

/-- The base with another path. -/
def withSegments (base : Url) (segments : List (List Char)) (parts : Parts) : Url :=
  { base with
    shielded := base.authority.isNone && needsShield segments
    path := .rooted segments
    query := parts.encodedQuery base.kind
    fragment := parts.encodedFragment }

/-- Resolve a reference without a scheme against a URL that has segments. -/
def resolve (base : Url) (own : List (List Char)) (parts : Parts) : Except UrlError Url :=
  match parts.main with
  | [] =>
    .ok { base with
      query := if parts.query.isSome then parts.encodedQuery base.kind else base.query
      fragment := parts.encodedFragment }
  | first :: rest =>
    if isSlash .web first then
      match rest with
      | [] => .ok (base.withSegments (UrlPath.resolve base.kind [] []) parts)
      | second :: more =>
        if isSlash .web second then
          readFromAuthority base.scheme parts
            (if first = '/' ∧ second = '/' then more else more.dropWhile (isSlash .web))
        else .ok (base.withSegments (UrlPath.resolve base.kind [] rest) parts)
    else
      .ok (base.withSegments (UrlPath.resolve base.kind (own.dropLast.reverse) parts.main) parts)

/-- How many slashes of either kind a text starts with. -/
def slashes (text : List Char) : Nat := (text.takeWhile (isSlash .web)).length

/-- Resolve a reference against a URL that is not a file.  A reference with a scheme stands for
itself, but one with the base's known scheme and fewer than two slashes after it is relative. -/
def join (base : Url) (reference : List Char) : Except UrlError Url :=
  let cleaned := clean reference
  match base.path, splitScheme? cleaned with
  | .rooted own, some (scheme, rest) =>
    if schemeKind scheme = .web ∧ scheme = base.scheme ∧ slashes rest < 2 then
      base.resolve own (parts rest)
    else readAfterScheme scheme rest
  | .flat _, some (scheme, rest) => readAfterScheme scheme rest
  | .rooted own, none => base.resolve own (parts cleaned)
  | .flat _, none =>
    match cleaned with
    | '#' :: fragment =>
      .ok { base with fragment := some (Percent.encode Percent.inFragment fragment) }
    | _ => .error .flatBase

end SignIn.Url
