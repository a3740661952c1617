/-!
# UTF-8

Text as bytes and back.  `Utf8.pieces` cuts bytes into characters and maximal ill-formed parts; the
strict and the lossy reading are both read off these pieces, so they differ only in what they make
of an ill-formed part.
-/

namespace SignIn

/-- A finite sequence of bytes. -/
abbrev Bytes := List UInt8

namespace Utf8

/-- The bytes of a text. -/
def encode (text : List Char) : Bytes :=
  text.flatMap String.utf8EncodeChar

/-- What the first byte of a longer character promises. -/
structure Lead where
  /-- The bits of the character that the first byte holds. -/
  bits : Nat
  /-- How many bytes follow. -/
  following : Nat
  /-- The least byte that may come second. -/
  least : UInt8
  /-- The greatest byte that may come second. -/
  greatest : UInt8

/-- The first bytes of two, three and four byte characters.  The bounds on the second byte rule out
overlong forms, surrogates and numbers beyond the last character. -/
def lead? (byte : UInt8) : Option Lead :=
  if 0xC2 ≤ byte ∧ byte ≤ 0xDF then some ⟨byte.toNat % 32, 1, 0x80, 0xBF⟩
  else if byte = 0xE0 then some ⟨0, 2, 0xA0, 0xBF⟩
  else if byte = 0xED then some ⟨13, 2, 0x80, 0x9F⟩
  else if 0xE1 ≤ byte ∧ byte ≤ 0xEF then some ⟨byte.toNat % 16, 2, 0x80, 0xBF⟩
  else if byte = 0xF0 then some ⟨0, 3, 0x90, 0xBF⟩
  else if 0xF1 ≤ byte ∧ byte ≤ 0xF3 then some ⟨byte.toNat % 8, 3, 0x80, 0xBF⟩
  else if byte = 0xF4 then some ⟨4, 3, 0x80, 0x8F⟩
  else none

/-- Read the given number of following bytes, the first of them within the given bounds, and stop in
front of a byte that does not belong. -/
def follow : Nat → UInt8 → UInt8 → Nat → Bytes → Option Nat × Bytes
  | 0, _, _, bits, rest => (some bits, rest)
  | _ + 1, _, _, _, [] => (none, [])
  | count + 1, least, greatest, bits, byte :: rest =>
    if least ≤ byte ∧ byte ≤ greatest then
      follow count 0x80 0xBF (bits * 64 + byte.toNat % 64) rest
    else (none, byte :: rest)

theorem follow_length_le (count : Nat) (least greatest : UInt8) (bits : Nat) (bytes : Bytes) :
    (follow count least greatest bits bytes).2.length ≤ bytes.length := by
  induction count generalizing least greatest bits bytes with
  | zero => simp [follow]
  | succ count ih =>
    cases bytes with
    | nil => simp [follow]
    | cons byte rest =>
      simp only [follow]
      split
      · exact Nat.le_succ_of_le (ih _ _ _ _)
      · exact Nat.le_refl _

/-- The characters of a byte sequence in order, with `none` for each maximal ill-formed part. -/
def pieces : Bytes → List (Option Char)
  | [] => []
  | byte :: rest =>
    if byte < 0x80 then some (Char.ofNat byte.toNat) :: pieces rest
    else
      match lead? byte with
      | none => none :: pieces rest
      | some lead =>
        let read := follow lead.following lead.least lead.greatest lead.bits rest
        have := follow_length_le lead.following lead.least lead.greatest lead.bits rest
        read.1.map Char.ofNat :: pieces read.2
termination_by bytes => bytes.length

/-- The replacement character. -/
def replacement : Char := '\uFFFD'

/-- The text of a byte sequence, each maximal ill-formed part replaced by one U+FFFD. -/
def decodeLossy (bytes : Bytes) : List Char :=
  (pieces bytes).map (·.getD replacement)

/-- The text of a byte sequence, if it is well-formed. -/
def decode? (bytes : Bytes) : Option (List Char) :=
  (pieces bytes).mapM id

end Utf8

end SignIn
