import SignIn.Text.Blank
import SignIn.Url.Percent

/-!
# Paths

The path of a URL is a list of segments or, for a URL that cannot be a base, a plain text.  Reading
segments resolves the dots in them: a single dot is left out, and two dots take away the segment
before, except for the drive letter of a file.
-/

namespace SignIn

/-- The families of schemes, which read their URLs in different ways. -/
inductive SchemeKind where
  /-- Files of a machine. -/
  | file
  /-- Known schemes with an internet host. -/
  | web
  /-- All other schemes. -/
  | other
deriving DecidableEq

/-- Whether a backslash separates segments as a slash does. -/
def SchemeKind.isSpecial (kind : SchemeKind) : Bool := kind != .other

/-- The path of a URL. -/
inductive UrlPath where
  /-- A text without segments. -/
  | flat (text : List Char)
  /-- Segments, each after a slash. -/
  | rooted (segments : List (List Char))
deriving DecidableEq

namespace UrlPath

/-- The text of a path. -/
def text : UrlPath → List Char
  | .flat text => text
  | .rooted segments => segments.flatMap fun segment => '/' :: segment

/-- Whether a segment stands for its parent: two dots, each of which may be percent-encoded. -/
def isDouble (segment : List Char) : Bool :=
  ["..", "%2e%2e", "%2e%2E", "%2E%2e", "%2E%2E", "%2e.", "%2E.", ".%2e", ".%2E"].contains
    (String.ofList segment)

/-- Whether a segment stands for its own place: one dot, which may be percent-encoded. -/
def isSingle (segment : List Char) : Bool :=
  [".", "%2e", "%2E"].contains (String.ofList segment)

/-- Whether a segment is the letter of a drive. -/
def isDrive (segment : List Char) : Bool :=
  match segment with
  | [letter, mark] => letter.isAlpha && (mark == ':' || mark == '|')
  | _ => false

/-- Whether a segment starts with the letter of a drive. -/
def startsWithDrive (segment : List Char) : Bool :=
  isDrive (segment.take 2) &&
    match segment.drop 2 with
    | [] => true
    | next :: _ => ['/', '\\', '?', '#'].contains next

/-- The segments without the last one, which stays if it starts with the letter of a drive.  Here
and below the segments before a place are listed latest first. -/
def parent : List (List Char) → List (List Char)
  | [] => []
  | last :: before => if startsWithDrive last then last :: before else before

/-- The way in which the first segment of a file writes the letter of a drive. -/
def settle (kind : SchemeKind) (before : List (List Char)) (segment : List Char) : List Char :=
  if kind = .file ∧ before.isEmpty = true ∧ isDrive segment = true then segment.take 1 ++ [':']
  else segment

/-- Step over a segment that a slash follows. -/
def pass (kind : SchemeKind) (before : List (List Char)) (segment : List Char) : List (List Char) :=
  if isDouble segment then parent before
  else if isSingle segment then before
  else settle kind before segment :: before

/-- Step into the last segment. -/
def finish (kind : SchemeKind) (before : List (List Char)) (segment : List Char) :
    List (List Char) :=
  if isDouble segment then [] :: parent before
  else if isSingle segment then [] :: before
  else settle kind before segment :: before

/-- The segments that a walk from a given place along the given ones leads to. -/
def walk (kind : SchemeKind) : List (List Char) → List (List Char) → List (List Char)
  | before, [] => before.reverse
  | before, [last] => (finish kind before last).reverse
  | before, segment :: segments => walk kind (pass kind before segment) segments

/-- Cut a text at its slashes. -/
def cut (kind : SchemeKind) (text : List Char) : List (List Char) :=
  Text.splitAll '/'
    (if kind.isSpecial then text.map fun char => if char = '\\' then '/' else char else text)

/-- The segments of a text that follows the given ones. -/
def resolve (kind : SchemeKind) (before : List (List Char)) (text : List Char) :
    List (List Char) :=
  walk kind before ((cut kind text).map (Percent.encode Percent.inPath))

/-- Leave out the empty segments at the start, but not the last one of all. -/
def collapse (segments : List (List Char)) : List (List Char) :=
  match segments.dropWhile List.isEmpty with
  | [] => [[]]
  | kept => kept

end UrlPath

end SignIn
