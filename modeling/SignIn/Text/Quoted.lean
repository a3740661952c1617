import SignIn.Text.HiddenTable
import SignIn.Text.CaseTable

/-!
# Quoted text

How diagnostics show a text: between double quotes, with escapes for the quote, the backslash, the
common controls and every character that has no shape of its own.
-/

namespace SignIn.Text

/-- Whether a quoted text shows the character by its number. -/
def isHidden (char : Char) : Bool := inRanges hiddenRanges char.toNat

/-- The lower-case hexadecimal digits of a number. -/
def hexDigits (number : Nat) : List Char := Nat.toDigits 16 number

/-- How a quoted text writes one character. -/
def quoteChar (char : Char) : List Char :=
  if char = '"' then ['\\', '"']
  else if char = '\\' then ['\\', '\\']
  else if char = '\x00' then ['\\', '0']
  else if char = '\t' then ['\\', 't']
  else if char = '\r' then ['\\', 'r']
  else if char = '\n' then ['\\', 'n']
  else if isHidden char then '\\' :: 'u' :: '\x7b' :: (hexDigits char.toNat ++ ['\x7d'])
  else [char]

/-- A text in double quotes. -/
def quote (text : String) : String :=
  String.ofList ('"' :: (text.toList.flatMap quoteChar ++ ['"']))

/-- A list of quoted texts in brackets. -/
def quoteList (texts : List String) : String :=
  "[" ++ String.intercalate ", " (texts.map quote) ++ "]"

end SignIn.Text
