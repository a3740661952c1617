import SignIn.Text.Blank
import SignIn.Url.Percent

/-!
# Form encoding

Lists of named values as one line of ASCII: pairs are joined by ampersands, a name and its value by
an equals sign.  `Form.encode` writes such a line and `Form.decode` reads one.
-/

namespace SignIn.Form

/-- Whether a character is written as it is. -/
def isPlain (char : Char) : Bool :=
  char.isAlphanum || char == '*' || char == '-' || char == '.' || char == '_'

/-- One character of a name or a value. -/
def encodeChar (char : Char) : List Char :=
  if char = ' ' then ['+'] else Percent.encodeChar (fun char => !isPlain char) char

/-- A name or a value. -/
def encodeText (text : List Char) : List Char := text.flatMap encodeChar

/-- A name and its value. -/
def encodePair (pair : List Char × List Char) : List Char :=
  encodeText pair.1 ++ '=' :: encodeText pair.2

/-- Pairs that follow another one. -/
def encodeMore (pairs : List (List Char × List Char)) : List Char :=
  pairs.flatMap fun pair => '&' :: encodePair pair

/-- A list of named values. -/
def encode : List (List Char × List Char) → List Char
  | [] => []
  | pair :: pairs => encodePair pair ++ encodeMore pairs

/-- A plus sign stands for a space. -/
def plusToSpace (char : Char) : Char := if char = '+' then ' ' else char

/-- The name or the value that a piece of a line stands for. -/
def decodeText (piece : List Char) : List Char :=
  Utf8.decodeLossy (Percent.decode (Utf8.encode (piece.map plusToSpace)))

/-- The pair that a piece between ampersands stands for. -/
def decodePair (piece : List Char) : List Char × List Char :=
  match Text.splitOnce? '=' piece with
  | some (name, value) => (decodeText name, decodeText value)
  | none => (decodeText piece, [])

/-- The named values of a line; empty pieces count for nothing. -/
def decode (line : List Char) : List (List Char × List Char) :=
  ((Text.splitAll '&' line).filter (!·.isEmpty)).map decodePair

end SignIn.Form
