import SignIn.Text.Utf8

/-!
# Percent encoding

A percent sign and two hexadecimal digits stand for a byte.  Each part of a URL has its own set of
ASCII characters that have to be written in this way; characters beyond ASCII always are.
-/

namespace SignIn.Percent

/-- The upper-case hexadecimal digit of a number below sixteen. -/
def hexDigit (number : Nat) : Char :=
  Char.ofNat (if number < 10 then 0x30 + number else 0x37 + number)

/-- The value of a hexadecimal digit. -/
def hexValue? (byte : UInt8) : Option Nat :=
  if 0x30 ≤ byte ∧ byte ≤ 0x39 then some (byte.toNat - 0x30)
  else if 0x41 ≤ byte ∧ byte ≤ 0x46 then some (byte.toNat - 0x37)
  else if 0x61 ≤ byte ∧ byte ≤ 0x66 then some (byte.toNat - 0x57)
  else none

/-- A byte as a percent sign and two digits. -/
def encodeByte (byte : UInt8) : List Char :=
  ['%', hexDigit (byte.toNat / 16), hexDigit (byte.toNat % 16)]

/-- One character of a text in which the characters of a set are encoded. -/
def encodeChar (encoded : Char → Bool) (char : Char) : List Char :=
  if char.toNat < 0x80 ∧ encoded char = false then [char]
  else (String.utf8EncodeChar char).flatMap encodeByte

/-- A text in which the characters of a set are encoded. -/
def encode (encoded : Char → Bool) (text : List Char) : List Char :=
  text.flatMap (encodeChar encoded)

/-- The bytes of a text with its percent signs resolved.  A percent sign without two digits stands
for itself. -/
def decode : Bytes → Bytes
  | 0x25 :: first :: second :: rest =>
    match hexValue? first, hexValue? second with
    | some high, some low => UInt8.ofNat (high * 16 + low) :: decode rest
    | _, _ => 0x25 :: decode (first :: second :: rest)
  | byte :: rest => byte :: decode rest
  | [] => []

/-! ## The sets of the parts -/

/-- The controls. -/
def isControl (char : Char) : Bool := char.toNat < 0x20 || char.toNat == 0x7F

/-- What is encoded in a fragment. -/
def inFragment (char : Char) : Bool :=
  isControl char || [' ', '"', '<', '>', '\x60'].contains char

/-- What is encoded in a query. -/
def inQuery (char : Char) : Bool :=
  isControl char || [' ', '"', '#', '<', '>'].contains char

/-- What is encoded in the query of a special scheme. -/
def inSpecialQuery (char : Char) : Bool := inQuery char || char == '\''

/-- What is encoded in a path. -/
def inPath (char : Char) : Bool :=
  inFragment char || ['#', '?', '\x7b', '\x7d'].contains char

/-- What is encoded in a user name or a password. -/
def inUserInfo (char : Char) : Bool :=
  inPath char || ['/', ':', ';', '=', '@', '[', '\\', ']', '^', '|'].contains char

/-- What is encoded in a path segment that is given on its own. -/
def inSegment (char : Char) : Bool := inPath char || char == '/' || char == '%'

/-- What is encoded in a path segment of a special scheme that is given on its own. -/
def inSpecialSegment (char : Char) : Bool := inSegment char || char == '\\'

end SignIn.Percent
