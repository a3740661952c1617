import SignIn.Text.Blank

/-!
# Numeric host addresses

The two kinds of numeric addresses, their readings and their texts.
-/

namespace SignIn

/-- The number that digits of a base spell, if there is at least one digit and nothing else. -/
def digitsIn? (value? : Char → Option Nat) (base : Nat) (digits : List Char) : Option Nat :=
  match digits.mapM value? with
  | none | some [] => none
  | some values => some (values.foldl (fun number value => number * base + value) 0)

/-- The value of a decimal digit. -/
def decimalDigit? (char : Char) : Option Nat :=
  if '0' ≤ char ∧ char ≤ '9' then some (char.toNat - 0x30) else none

/-- The value of an octal digit. -/
def octalDigit? (char : Char) : Option Nat :=
  if '0' ≤ char ∧ char ≤ '7' then some (char.toNat - 0x30) else none

/-- The value of a hexadecimal digit. -/
def hexDigit? (char : Char) : Option Nat :=
  if '0' ≤ char ∧ char ≤ '9' then some (char.toNat - 0x30)
  else if 'A' ≤ char ∧ char ≤ 'F' then some (char.toNat - 0x37)
  else if 'a' ≤ char ∧ char ≤ 'f' then some (char.toNat - 0x57)
  else none

/-! ## Four bytes -/

/-- An address of four bytes, the first the most significant one. -/
structure Ipv4 where
  /-- The address as one number. -/
  number : UInt32
deriving DecidableEq

namespace Ipv4

/-- One part of an address: hexadecimal after `0x`, octal after another zero, else decimal.  A sign
of the base alone stands for zero. -/
def part? (text : List Char) : Option Nat :=
  match text with
  | [] => none
  | ['0', 'x'] | ['0', 'X'] => some 0
  | '0' :: 'x' :: digits | '0' :: 'X' :: digits => digitsIn? hexDigit? 16 digits
  | ['0'] => some 0
  | '0' :: digits => digitsIn? octalDigit? 8 digits
  | digits => digitsIn? decimalDigit? 10 digits

/-- The parts between the dots of a text, one dot at its end apart. -/
def parts (text : List Char) : List (List Char) :=
  let pieces := Text.splitAll '.' text
  if 1 < pieces.length ∧ pieces.getLast? = some [] then pieces.dropLast else pieces

/-- Whether a host can only be meant as an address: its last part is a number. -/
def isMeant (text : List Char) : Bool :=
  match (parts text).getLast? with
  | none => false
  | some last =>
    (!last.isEmpty && last.all fun char => (decimalDigit? char).isSome) || (part? last).isSome

/-- The number of an address of one to four parts: the last part fills the bytes that the parts
before it leave, each of which is one byte. -/
def combine? (numbers : List Nat) : Option Nat :=
  match numbers.reverse with
  | [] => none
  | last :: before =>
    let room := Nat.pow 256 (4 - before.length)
    if before.length ≤ 3 ∧ before.all (· < 256) = true ∧ last < room then
      some (before.reverse.foldl (fun number byte => number * 256 + byte) 0 * room + last)
    else none

/-- Read an address. -/
def parse? (text : List Char) : Option Ipv4 :=
  (((parts text).mapM part?).bind combine?).map fun number => ⟨UInt32.ofNat number⟩

/-- The text of an address. -/
def text (address : Ipv4) : List Char :=
  let number := address.number.toNat
  List.intercalate ['.']
    ([number / 0x1000000, number / 0x10000 % 256, number / 0x100 % 256, number % 256].map
      (Nat.toDigits 10))

end Ipv4

/-! ## Eight groups -/

/-- An address of eight groups of sixteen bits. -/
structure Ipv6 where
  /-- The groups, the first the most significant one. -/
  groups : Vector UInt16 8
deriving DecidableEq

namespace Ipv6

/-- One group of up to four hexadecimal digits. -/
def group? (text : List Char) : Option Nat :=
  if text.length ≤ 4 then digitsIn? hexDigit? 16 text else none

/-- One byte in decimal without needless zeros. -/
def byte? (text : List Char) : Option Nat :=
  match digitsIn? decimalDigit? 10 text with
  | none => none
  | some number =>
    if number < 256 ∧ (text.head? = some '0' → text.length = 1) then some number else none

/-- Two groups written as four decimal bytes. -/
def byteGroups? (text : List Char) : Option (List Nat) :=
  match (Text.splitAll '.' text).mapM byte? with
  | some [first, second, third, fourth] => some [first * 256 + second, third * 256 + fourth]
  | _ => none

/-- Groups between single colons; the last two may be written as four decimal bytes if they end the
address. -/
def groups? (atEnd : Bool) : List (List Char) → Option (List Nat)
  | [] => some []
  | [last] =>
    match group? last with
    | some number => some [number]
    | none => if atEnd then byteGroups? last else none
  | piece :: pieces =>
    match group? piece, groups? atEnd pieces with
    | some number, some numbers => some (number :: numbers)
    | _, _ => none

/-- The groups of one side of a double colon. -/
def side? (atEnd : Bool) (text : List Char) : Option (List Nat) :=
  if text.isEmpty then some [] else groups? atEnd (Text.splitAll ':' text)

/-- The text before and after the first double colon. -/
def splitDouble? : List Char → Option (List Char × List Char)
  | [] => none
  | [_] => none
  | char :: next :: rest =>
    if char = ':' ∧ next = ':' then some ([], rest)
    else (splitDouble? (next :: rest)).map fun (before, after) => (char :: before, after)

/-- All groups of an address.  A double colon stands for at least one group of zero. -/
def all? (text : List Char) : Option (List Nat) :=
  match splitDouble? text with
  | none => side? true text
  | some (before, after) =>
    match side? false before, side? true after with
    | some left, some right =>
      if left.length + right.length ≤ 7 then
        some (left ++ List.replicate (8 - left.length - right.length) 0 ++ right)
      else none
    | _, _ => none

/-- Read an address. -/
def parse? (text : List Char) : Option Ipv6 :=
  match all? text with
  | none => none
  | some numbers =>
    let groups := (numbers.map UInt16.ofNat).toArray
    if eight : groups.size = 8 then some ⟨groups, eight⟩ else none

/-- How many zeros a list starts with. -/
def zeros (numbers : List Nat) : Nat := (numbers.takeWhile (· == 0)).length

/-- The place and the length of the first of the longest runs of at least two zeros. -/
def longestRun (numbers : List Nat) : Option (Nat × Nat) :=
  (List.range numbers.length).foldl (fun found start =>
    let length := zeros (numbers.drop start)
    let best := (found.map (·.2)).getD 1
    if best < length then some (start, length) else found) none

/-- Groups in hexadecimal between colons. -/
def joinGroups (numbers : List Nat) : List Char :=
  List.intercalate [':'] (numbers.map (Nat.toDigits 16))

/-- The text of an address, its longest run of zeros left out. -/
def text (address : Ipv6) : List Char :=
  let numbers := address.groups.toList.map (·.toNat)
  match longestRun numbers with
  | none => joinGroups numbers
  | some (start, length) =>
    joinGroups (numbers.take start) ++ [':', ':'] ++ joinGroups (numbers.drop (start + length))

/-- The text of an address that shows an embedded address of four bytes as such. -/
def mixedText (address : Ipv6) : List Char :=
  match address.groups.toList.map (·.toNat) with
  | [0, 0, 0, 0, 0, 0xFFFF, high, low] =>
    "::ffff:".toList ++ (Ipv4.mk (UInt32.ofNat (high * 65536 + low))).text
  | _ => address.text

end Ipv6

end SignIn
