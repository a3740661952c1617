import SignIn.Json.Failure
import SignIn.Json.Value
import SignIn.Text.Utf8

/-!
# Scanning JSON bytes

The parts of a JSON text that have no parts of their own: blanks, keywords, numbers and strings.  A
scan takes the bytes from a given place on and answers with what it found and the bytes after it,
which are fewer.
-/

namespace SignIn.Json

/-- The bytes after a scan that has consumed at least one. -/
structure Rest (bytes : Bytes) where
  /-- The bytes. -/
  val : Bytes
  /-- There are fewer. -/
  shorter : val.length < bytes.length

/-- The bytes after a scan that may have consumed none. -/
structure Upto (bytes : Bytes) where
  /-- The bytes. -/
  val : Bytes
  /-- There are no more. -/
  within : val.length ≤ bytes.length

/-- Nothing has been consumed. -/
def Upto.all (bytes : Bytes) : Upto bytes := ⟨bytes, Nat.le_refl _⟩

namespace Rest

variable {bytes : Bytes} {byte : UInt8}

/-- The first byte has been consumed. -/
def tail (byte : UInt8) (bytes : Bytes) : Rest (byte :: bytes) := ⟨bytes, Nat.lt_succ_self _⟩

/-- Forget that a byte has been consumed. -/
def upto (rest : Rest bytes) : Upto bytes := ⟨rest.val, Nat.le_of_lt rest.shorter⟩

/-- At least the first byte has been consumed. -/
def uncons (rest : Rest (byte :: bytes)) : Upto bytes := ⟨rest.val, Nat.le_of_lt_succ rest.shorter⟩

/-- Consume more. -/
def before (rest : Rest bytes) (last : Upto rest.val) : Rest bytes :=
  ⟨last.val, Nat.lt_of_le_of_lt last.within rest.shorter⟩

end Rest

/-- The first byte has been consumed as well. -/
def Upto.cons {bytes : Bytes} (byte : UInt8) (last : Upto bytes) : Rest (byte :: bytes) :=
  ⟨last.val, Nat.lt_succ_of_le last.within⟩

/-- Consume more. -/
def Upto.before {bytes : Bytes} (rest : Upto bytes) (last : Rest rest.val) : Rest bytes :=
  ⟨last.val, Nat.lt_of_lt_of_le last.shorter rest.within⟩

/-- A scan from a given place. -/
def Scan (α : Type) := (bytes : Bytes) → Except Fault (α × Rest bytes)

/-- The character of an ASCII byte. -/
abbrev ascii (byte : UInt8) : Char := Char.ofUInt8 byte

/-- Whether a byte may stand between the parts of a JSON text. -/
def isSpace (byte : UInt8) : Bool :=
  byte == 0x20 || byte == 0x09 || byte == 0x0A || byte == 0x0D

/-- The bytes from the first one on that is no space. -/
def space (bytes : Bytes) : Bytes := bytes.dropWhile isSpace

theorem dropWhile_length_le (keep : UInt8 → Bool) (bytes : Bytes) :
    (bytes.dropWhile keep).length ≤ bytes.length :=
  (List.dropWhile_suffix keep).length_le

/-- The first byte that is not to be kept, and the bytes after it. -/
def firstOther? (keep : UInt8 → Bool) (bytes : Bytes) : Option (UInt8 × Rest bytes) :=
  match found : bytes.dropWhile keep with
  | [] => none
  | byte :: rest =>
    some (byte, ⟨rest, by
      have := dropWhile_length_le keep bytes
      rw [found] at this
      exact this⟩)

/-- The first byte that is no space, and the bytes after it. -/
def next? (bytes : Bytes) : Option (UInt8 × Rest bytes) := firstOther? isSpace bytes

/-- Consume the given letters. -/
def expect : List Char → (bytes : Bytes) → Except Fault (Upto bytes)
  | [], bytes => .ok (.all bytes)
  | _ :: _, [] => .error .truncated
  | letter :: letters, byte :: rest =>
    if ascii byte = letter then
      match expect letters rest with
      | .ok last => .ok (last.cons byte).upto
      | .error fault => .error fault
    else .error .malformed

/-- Whether a byte is a decimal digit. -/
def isDigit (byte : UInt8) : Bool := 0x30 ≤ byte && byte ≤ 0x39

/-- The value of a decimal digit. -/
def digitValue (byte : UInt8) : Nat := byte.toNat - 0x30

/-! ## Numbers -/

/-- The parts of a number without its sign. -/
structure Numeral where
  /-- The digits before the point. -/
  whole : Bytes
  /-- The digits after the point, none if there is no point. -/
  fraction : Bytes
  /-- The sign and the digits of the exponent. -/
  exponent : Option (Bool × Bytes)

/-- Pass over digits. -/
def dropDigits (bytes : Bytes) : Upto bytes :=
  ⟨bytes.dropWhile isDigit, dropWhile_length_le isDigit bytes⟩

/-- Consume one or more digits. -/
def digits (bytes : Bytes) : Except Fault (Bytes × Rest bytes) :=
  match bytes with
  | [] => .error .truncated
  | byte :: rest =>
    if isDigit byte then .ok (byte :: rest.takeWhile isDigit, (dropDigits rest).cons byte)
    else .error .malformed

/-- Consume the digits after a point, if there is one. -/
def fractionPart (bytes : Bytes) : Except Fault (Bytes × Upto bytes) :=
  match bytes with
  | [] => .ok ([], .all [])
  | byte :: rest =>
    if ascii byte = '.' then
      match digits rest with
      | .ok (found, last) => .ok (found, (last.upto.cons byte).upto)
      | .error fault => .error fault
    else .ok ([], .all (byte :: rest))

/-- Whether the exponent's sign is a minus, and the bytes after the sign. -/
def exponentSign (bytes : Bytes) : Bool × Upto bytes :=
  match bytes with
  | [] => (false, .all [])
  | byte :: rest =>
    if ascii byte = '-' then (true, (Rest.tail byte rest).upto)
    else if ascii byte = '+' then (false, (Rest.tail byte rest).upto)
    else (false, .all (byte :: rest))

/-- Consume an exponent, if there is one. -/
def exponentPart (bytes : Bytes) : Except Fault (Option (Bool × Bytes) × Upto bytes) :=
  match bytes with
  | [] => .ok (none, .all [])
  | byte :: rest =>
    if ascii byte = 'e' ∨ ascii byte = 'E' then
      let sign := exponentSign rest
      match digits sign.2.val with
      | .ok (found, last) =>
        .ok (some (sign.1, found), ((sign.2.before last).upto.cons byte).upto)
      | .error fault => .error fault
    else .ok (none, .all (byte :: rest))

/-- Consume a number without its sign. -/
def numeral : Scan Numeral := fun bytes =>
  match digits bytes with
  | .error fault => .error fault
  | .ok (whole, afterWhole) =>
    if whole.head? = some 0x30 ∧ whole.length ≠ 1 then .error .malformed
    else
      match fractionPart afterWhole.val with
      | .error fault => .error fault
      | .ok (fraction, afterFraction) =>
        match exponentPart (afterWhole.before afterFraction).val with
        | .error fault => .error fault
        | .ok (exponent, last) =>
          .ok (⟨whole, fraction, exponent⟩, (afterWhole.before afterFraction).before last)

/-- The greatest integer that is kept exactly, which is the greatest of 64 binary digits. -/
def greatestInteger : Nat := 18446744073709551615

/-- How far below zero an integer may lie to be kept exactly. -/
def greatestNegated : Nat := 9223372036854775808

/-- Append digits to a significand as long as it stays within 64 bits, and say which are left. -/
def absorb : Nat → Bytes → Nat × Bytes
  | significand, [] => (significand, [])
  | significand, digit :: rest =>
    let longer := significand * 10 + digitValue digit
    if longer ≤ greatestInteger then absorb longer rest else (significand, digit :: rest)

/-- The natural number that digits spell. -/
def digitsValue (digits : Bytes) : Nat :=
  digits.foldl (fun number digit => number * 10 + digitValue digit) 0

/-- The signed exponent of a numeral. -/
def Numeral.exponentValue (numeral : Numeral) : Int :=
  match numeral.exponent with
  | none => 0
  | some (true, digits) => -(digitsValue digits : Int)
  | some (false, digits) => digitsValue digits

/-- The number of a numeral and a sign.  What has neither fraction nor exponent and fits is an
integer, except for a negative zero; all else is floating point, from the digits that fit into 64
bits. -/
def Numeral.value? (numeral : Numeral) (negative : Bool) : Option Number :=
  let whole := absorb 0 numeral.whole
  if numeral.fraction = [] ∧ numeral.exponent = none ∧ whole.2 = [] ∧
      (negative = true → 0 < whole.1 ∧ whole.1 ≤ greatestNegated) then
    some (.integer (if negative then -(whole.1 : Int) else whole.1))
  else
    let all := absorb whole.1 numeral.fraction
    let place : Int :=
      (whole.2.length : Int) - (numeral.fraction.length - all.2.length : Nat) +
        numeral.exponentValue
    (Binary64.ofDecimal? all.1 place).map (.float negative)

/-- Consume a number whose sign has been consumed. -/
def number (negative : Bool) : Scan Number := fun bytes =>
  match numeral bytes with
  | .error fault => .error fault
  | .ok (found, after) =>
    match found.value? negative with
    | none => .error .malformed
    | some value => .ok (value, after)

/-! ## Strings -/

/-- The value of a hexadecimal digit. -/
def hexValue? (byte : UInt8) : Option Nat :=
  if isDigit byte then some (digitValue byte)
  else if 0x41 ≤ byte ∧ byte ≤ 0x46 then some (byte.toNat - 0x37)
  else if 0x61 ≤ byte ∧ byte ≤ 0x66 then some (byte.toNat - 0x57)
  else none

/-- Consume the four hexadecimal digits of an escape. -/
def hexEscape (bytes : Bytes) : Except Fault (Nat × Rest bytes) :=
  match bytes with
  | first :: second :: third :: fourth :: rest =>
    match hexValue? first, hexValue? second, hexValue? third, hexValue? fourth with
    | some a, some b, some c, some d =>
      .ok (((a * 16 + b) * 16 + c) * 16 + d,
        (((Rest.tail fourth rest).upto.cons third).upto.cons second).upto.cons first)
    | _, _, _, _ => .error .malformed
  | _ => .error .truncated

/-- The character of a one-letter escape. -/
def simpleEscape? (byte : UInt8) : Option Char :=
  match ascii byte with
  | '"' => some '"'
  | '\\' => some '\\'
  | '/' => some '/'
  | 'b' => some '\x08'
  | 'f' => some '\x0c'
  | 'n' => some '\n'
  | 'r' => some '\r'
  | 't' => some '\t'
  | _ => none

/-- Consume the second half of a surrogate pair. -/
def lowSurrogate (bytes : Bytes) : Except Fault (Nat × Rest bytes) :=
  match bytes with
  | [] => .error .truncated
  | slash :: rest =>
    if ascii slash = '\\' then
      match rest with
      | [] => .error .truncated
      | letter :: tail =>
        if ascii letter = 'u' then
          match hexEscape tail with
          | .error fault => .error fault
          | .ok (unit, last) =>
            if 0xDC00 ≤ unit ∧ unit ≤ 0xDFFF then
              .ok (unit, (last.upto.cons letter).upto.cons slash)
            else .error .malformed
        else .error .malformed
    else .error .malformed

/-- Consume what follows the backslash of an escape. -/
def escapeBody (bytes : Bytes) : Except Fault (Char × Rest bytes) :=
  match bytes with
  | [] => .error .truncated
  | letter :: rest =>
    match simpleEscape? letter with
    | some char => .ok (char, .tail letter rest)
    | none =>
      if ascii letter = 'u' then
        match hexEscape rest with
        | .error fault => .error fault
        | .ok (unit, after) =>
          if 0xDC00 ≤ unit ∧ unit ≤ 0xDFFF then .error .malformed
          else if 0xD800 ≤ unit ∧ unit ≤ 0xDBFF then
            match lowSurrogate after.val with
            | .error fault => .error fault
            | .ok (low, last) =>
              .ok (Char.ofNat (0x10000 + (unit - 0xD800) * 0x400 + (low - 0xDC00)),
                (after.before last.upto).upto.cons letter)
          else .ok (Char.ofNat unit, after.upto.cons letter)
      else .error .malformed

/-- Whether a byte stands for itself inside a string. -/
def isPlain (byte : UInt8) : Bool := 0x20 ≤ byte && byte != 0x22 && byte != 0x5C

/-- Consume the bytes of a string up to and with the closing quote. -/
def stringBytes (bytes : Bytes) : Except Fault (Bytes × Rest bytes) :=
  match firstOther? isPlain bytes with
  | none => .error .truncated
  | some (byte, rest) =>
    if ascii byte = '"' then .ok (bytes.takeWhile isPlain, rest)
    else if ascii byte = '\\' then
      match escapeBody rest.val with
      | .error fault => .error fault
      | .ok (char, after) =>
        match stringBytes after.val with
        | .error fault => .error fault
        | .ok (more, last) =>
          .ok (bytes.takeWhile isPlain ++ String.utf8EncodeChar char ++ more,
            rest.before (after.before last.upto).upto)
    else .error .malformed
termination_by bytes.length
decreasing_by exact Nat.lt_trans after.shorter rest.shorter

/-- Consume a string whose opening quote has been consumed. -/
def stringBody : Scan String := fun bytes =>
  match stringBytes bytes with
  | .error fault => .error fault
  | .ok (content, last) =>
    match Utf8.decode? content with
    | none => .error .malformed
    | some text => .ok (String.ofList text, last)

/-- Pass over an escape without asking what it stands for. -/
def skipEscape (bytes : Bytes) : Except Fault (Rest bytes) :=
  match bytes with
  | [] => .error .truncated
  | letter :: rest =>
    if (simpleEscape? letter).isSome then .ok (.tail letter rest)
    else if ascii letter = 'u' then
      match hexEscape rest with
      | .error fault => .error fault
      | .ok (_, last) => .ok (last.upto.cons letter)
    else .error .malformed

/-- Pass over a string whose opening quote has been consumed. -/
def skipString (bytes : Bytes) : Except Fault (Rest bytes) :=
  match firstOther? isPlain bytes with
  | none => .error .truncated
  | some (byte, rest) =>
    if ascii byte = '"' then .ok rest
    else if ascii byte = '\\' then
      match skipEscape rest.val with
      | .error fault => .error fault
      | .ok after =>
        match skipString after.val with
        | .error fault => .error fault
        | .ok last => .ok (rest.before (after.before last.upto).upto)
    else .error .malformed
termination_by bytes.length
decreasing_by exact Nat.lt_trans after.shorter rest.shorter

end SignIn.Json
