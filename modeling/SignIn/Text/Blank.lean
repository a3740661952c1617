/-!
# White space

The characters with the Unicode property `White_Space`, and what it means to trim a text or to cut
it into words.
-/

namespace SignIn.Text

/-- The Unicode property `White_Space`. -/
def isBlank (char : Char) : Bool :=
  let code := char.toNat
  (0x09 ≤ code && code ≤ 0x0D) || code == 0x20 || code == 0x85 || code == 0xA0 || code == 0x1680 ||
    (0x2000 ≤ code && code ≤ 0x200A) || code == 0x2028 || code == 0x2029 || code == 0x202F ||
    code == 0x205F || code == 0x3000

/-- Drop the longest blank start. -/
def trimStart (text : List Char) : List Char := text.dropWhile isBlank

/-- Drop the longest blank end. -/
def trimEnd (text : List Char) : List Char := (text.reverse.dropWhile isBlank).reverse

/-- Drop the blanks at both ends. -/
def trim (text : List Char) : List Char := trimEnd (trimStart text)

/-- Put a character in front of the first word. -/
def consFirst (char : Char) : List (List Char) → List (List Char)
  | [] => [[char]]
  | word :: words => (char :: word) :: words

/-- The pieces between blanks, empty ones included. -/
def splitBlank : List Char → List (List Char)
  | [] => [[]]
  | char :: rest =>
    if isBlank char then [] :: splitBlank rest else consFirst char (splitBlank rest)

/-- The longest blank-free pieces of a text, in order. -/
def words (text : List Char) : List (List Char) :=
  (splitBlank text).filter (!·.isEmpty)

/-- The text before and after the first occurrence of a character. -/
def splitOnce? (separator : Char) : List Char → Option (List Char × List Char)
  | [] => none
  | char :: rest =>
    if char = separator then some ([], rest)
    else (splitOnce? separator rest).map fun (before, after) => (char :: before, after)

/-- The pieces between all occurrences of a character, at least one. -/
def splitAll (separator : Char) : List Char → List (List Char)
  | [] => [[]]
  | char :: rest =>
    if char = separator then [] :: splitAll separator rest
    else consFirst char (splitAll separator rest)

end SignIn.Text
