import SignIn.Http.Fault
import SignIn.Text.Utf8

/-!
# Request targets

The text that names what a request is for: a path with a query, an authority, or a scheme followed
by both.  A fragment is accepted and forgotten.
-/

namespace SignIn.Http

/-- The target of a request. -/
structure Target where
  /-- The scheme. -/
  scheme : Option (List Char)
  /-- The authority, which may be empty. -/
  authority : List Char
  /-- The path, which may be empty. -/
  path : List Char
  /-- What follows the question mark. -/
  query : Option (List Char)
deriving DecidableEq

namespace Target

/-- The text of a target.  After a scheme the path is never empty. -/
def chars (target : Target) : List Char :=
  let before := match target.scheme with
    | some scheme => scheme ++ [':', '/', '/']
    | none => []
  let path := if target.path.isEmpty ∧ target.scheme.isSome then ['/'] else target.path
  let after := match target.query with
    | some query => '?' :: query
    | none => []
  before ++ target.authority ++ path ++ after

/-- The text of a target. -/
def text (target : Target) : String := String.ofList target.chars

/-- Whether a character may stand in a path. -/
def inPath (char : Char) : Bool :=
  let code := char.toNat
  code == 0x21 || code == 0x22 || (0x24 ≤ code && code ≤ 0x3B) || code == 0x3D ||
    (0x40 ≤ code && code ≤ 0x5F) || 0x61 ≤ code

/-- Whether a character may stand in a query. -/
def inQuery (char : Char) : Bool :=
  let code := char.toNat
  code == 0x21 || (0x24 ≤ code && code ≤ 0x3B) || code == 0x3D || 0x3F ≤ code

/-- A path and a query. -/
def readPath (text : List Char) :
    Except TargetFault (List Char × Option (List Char)) :=
  let isEnd (char : Char) : Bool := char == '?' || char == '#'
  let path := text.takeWhile (!isEnd ·)
  if path.all inPath then
    match text.dropWhile (!isEnd ·) with
    | '?' :: rest =>
      let query := rest.takeWhile (· != '#')
      if query.all inQuery then .ok (path, some query) else .error .character
    | _ => .ok (path, none)
  else .error .character

/-! ## Authorities -/

/-- What has been seen of an authority. -/
structure Seen where
  /-- The colons since the last at sign or closing bracket. -/
  colons : Nat := 0
  /-- Whether there is an opening bracket. -/
  opened : Bool := false
  /-- Whether there is a closing bracket. -/
  closed : Bool := false
  /-- Whether there is a percent sign since the last at sign or closing bracket. -/
  percent : Bool := false
  /-- Whether the last character is an at sign. -/
  atSign : Bool := false

/-- Whether a character may stand in an authority and means nothing special there. -/
def inAuthority (char : Char) : Bool :=
  char.isAlphanum ||
    ['!', '$', '&', '\'', '(', ')', '*', '+', ',', '-', '.', ';', '=', '_', '~'].contains char

/-- How many colons may stand together. -/
def mostColons : Nat := 8

/-- Take note of one character of an authority. -/
def Seen.step (seen : Seen) (char : Char) : Except TargetFault Seen :=
  let next := { seen with atSign := false }
  match char with
  | ':' =>
    if mostColons ≤ seen.colons then .error .authority
    else .ok { next with colons := seen.colons + 1 }
  | '[' =>
    if seen.percent || seen.opened then .error .authority
    else .ok { next with opened := true }
  | ']' =>
    if !seen.opened || seen.closed then .error .authority
    else .ok { next with closed := true, colons := 0, percent := false }
  | '@' => .ok { next with colons := 0, percent := false, atSign := true }
  | '%' => .ok { next with percent := true }
  | _ => if inAuthority char then .ok next else .error .character

/-- Whether what has been seen is a whole authority. -/
def Seen.isWhole (seen : Seen) : Bool :=
  seen.opened == seen.closed && seen.colons ≤ 1 && !seen.atSign && !seen.percent

/-- Check all characters of an authority. -/
def checkAuthority (text : List Char) : Except TargetFault Unit :=
  match text.foldlM Seen.step ({} : Seen) with
  | .error fault => .error fault
  | .ok seen => if seen.isWhole then .ok () else .error .authority

/-- The authority at the start of a text, and what follows it. -/
def splitAuthority (text : List Char) : Except TargetFault (List Char × List Char) :=
  let isEnd (char : Char) : Bool := char == '/' || char == '?' || char == '#'
  match checkAuthority (text.takeWhile (!isEnd ·)) with
  | .error fault => .error fault
  | .ok () => .ok (text.takeWhile (!isEnd ·), text.dropWhile (!isEnd ·))

/-! ## Schemes -/

/-- Whether a character may stand in a scheme. -/
def inScheme (char : Char) : Bool :=
  char.isAlphanum || char == '+' || char == '-' || char == '.' || char == '~'

/-- The longest scheme. -/
def longestScheme : Nat := 64

/-- The text after a scheme that is known by name, in whatever case. -/
def afterKnown? (scheme text : List Char) : Option (List Char) :=
  let start := scheme ++ [':', '/', '/']
  if (text.take start.length).map Char.toLower = start then some (text.drop start.length) else none

/-- The scheme at the start of a text, and what follows it. -/
def splitScheme (text : List Char) : Except TargetFault (Option (List Char × List Char)) :=
  let web := "http".toList
  let secure := "https".toList
  match afterKnown? web text, afterKnown? secure text with
  | some rest, _ => .ok (some (web, rest))
  | none, some rest => .ok (some (secure, rest))
  | none, none =>
    let scheme := text.takeWhile inScheme
    match text.dropWhile inScheme with
    | ':' :: '/' :: '/' :: rest =>
      if longestScheme < scheme.length then .error .schemeLength
      else if text.length ≤ 3 then .ok none
      else .ok (some (scheme, rest))
    | _ => .ok none

/-! ## Whole targets -/

/-- A target that is an authority alone. -/
def readAuthority (text : List Char) (otherwise : TargetFault) : Except TargetFault Target :=
  match splitAuthority text with
  | .error fault => .error fault
  | .ok (authority, []) => .ok ⟨none, authority, [], none⟩
  | .ok (_, _ :: _) => .error otherwise

/-- A target with a scheme. -/
def readAbsolute (scheme rest : List Char) : Except TargetFault Target :=
  if rest = [] then .error .empty
  else
    match splitAuthority rest with
    | .error fault => .error fault
    | .ok ([], _) => .error .format
    | .ok (authority, after) =>
      match readPath after with
      | .error fault => .error fault
      | .ok (path, query) => .ok ⟨some scheme, authority, path, query⟩

/-- The longest target, in bytes. -/
def longest : Nat := 65534

/-- Read a target. -/
def read (text : List Char) : Except TargetFault Target :=
  if longest < (Utf8.encode text).length then .error .length
  else
    match text with
    | [] => .error .empty
    | ['*'] => .ok ⟨none, [], ['*'], none⟩
    | '/' :: _ =>
      match readPath text with
      | .error fault => .error fault
      | .ok (path, query) => .ok ⟨none, [], path, query⟩
    | [_] => readAuthority text .character
    | _ =>
      match splitScheme text with
      | .error fault => .error fault
      | .ok none => readAuthority text .format
      | .ok (some (scheme, rest)) => readAbsolute scheme rest

end Target

end SignIn.Http
