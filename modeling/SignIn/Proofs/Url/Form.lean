import SignIn.Proofs.Text
import SignIn.Proofs.Utf8
import SignIn.Url.Form

/-!
# Forms read back

A form is written in ASCII, and reading what has been written gives the named values back, whatever
characters they consist of.
-/

namespace SignIn

/-! ## Percent signs -/

namespace Percent

theorem encode_eq_self {encoded : Char → Bool} {text : List Char}
    (kept : ∀ char ∈ text, char.toNat < 0x80 ∧ encoded char = false) :
    encode encoded text = text := by
  induction text with
  | nil => rfl
  | cons char text ih =>
    have first : encodeChar encoded char = [char] := if_pos (kept char List.mem_cons_self)
    have later := ih fun other member => kept other (List.mem_cons_of_mem _ member)
    rw [encode, List.flatMap_cons, first, ← encode, later, List.singleton_append]

theorem not_isControl_of_visible {char : Char} (above : 0x20 < char.toNat)
    (below : char.toNat < 0x7F) : isControl char = false := by
  simp only [isControl, Bool.or_eq_false_iff, decide_eq_false_iff_not, beq_eq_false_iff_ne]
  omega

/-- A digit is a letter or a decimal digit, and it is read as the number that it was written for. -/
theorem hexDigit_spec {number : Nat} (small : number < 16) :
    (hexDigit number).isAlphanum = true ∧ (hexDigit number).toNat < 0x80 ∧
      hexValue? (UInt8.ofNat (hexDigit number).toNat) = some number := by
  have checked : ∀ digit : Fin 16, (hexDigit digit).isAlphanum = true ∧
      (hexDigit digit).toNat < 0x80 ∧
      hexValue? (UInt8.ofNat (hexDigit digit).toNat) = some digit.val := by decide
  exact checked ⟨number, small⟩

theorem mem_encodeByte {byte : UInt8} {char : Char} (member : char ∈ encodeByte byte) :
    char = '%' ∨ char.isAlphanum = true ∧ char.toNat < 0x80 := by
  have bound : byte.toNat < 256 := byte.toNat_lt
  have high := hexDigit_spec (show byte.toNat / 16 < 16 by omega)
  have low := hexDigit_spec (show byte.toNat % 16 < 16 by omega)
  simp only [encodeByte, List.mem_cons, List.not_mem_nil, or_false] at member
  rcases member with rfl | rfl | rfl
  · exact .inl rfl
  · exact .inr ⟨high.1, high.2.1⟩
  · exact .inr ⟨low.1, low.2.1⟩

/-- A character of an encoded text is one that need not be encoded, or it spells a byte. -/
theorem mem_encodeChar {encoded : Char → Bool} {given char : Char}
    (member : char ∈ encodeChar encoded given) :
    char = given ∧ encoded given = false ∨ char = '%' ∨ char.isAlphanum = true := by
  unfold encodeChar at member
  split at member
  · rename_i kept
    exact .inl ⟨List.mem_singleton.1 member, kept.2⟩
  · obtain ⟨byte, -, written⟩ := List.mem_flatMap.1 member
    exact .inr ((mem_encodeByte written).imp_right And.left)

theorem mem_encode {encoded : Char → Bool} {text : List Char} {char : Char}
    (member : char ∈ encode encoded text) :
    char ∈ text ∧ encoded char = false ∨ char = '%' ∨ char.isAlphanum = true := by
  obtain ⟨given, inside, written⟩ := List.mem_flatMap.1 member
  rcases mem_encodeChar written with ⟨rfl, plain⟩ | spelt
  · exact .inl ⟨inside, plain⟩
  · exact .inr spelt

theorem decode_plain {byte : UInt8} (plain : byte ≠ 0x25) (rest : Bytes) :
    decode (byte :: rest) = byte :: decode rest := by
  rw [decode]
  exact fun _ _ _ percent => absurd percent plain

theorem decode_encodeByte (byte : UInt8) (rest : Bytes) :
    decode (Utf8.encode (encodeByte byte) ++ rest) = byte :: decode rest := by
  have bound : byte.toNat < 256 := byte.toNat_lt
  obtain ⟨-, high_ascii, high⟩ := hexDigit_spec (show byte.toNat / 16 < 16 by omega)
  obtain ⟨-, low_ascii, low⟩ := hexDigit_spec (show byte.toNat % 16 < 16 by omega)
  have bytes_eq : Utf8.encode (encodeByte byte) =
      [0x25, UInt8.ofNat (hexDigit (byte.toNat / 16)).toNat,
        UInt8.ofNat (hexDigit (byte.toNat % 16)).toNat] := by
    rw [encodeByte, Utf8.encode_ascii]
    · rfl
    · simpa using ⟨high_ascii, low_ascii⟩
  have number_eq : byte.toNat / 16 * 16 + byte.toNat % 16 = byte.toNat := by omega
  rw [bytes_eq, List.cons_append, List.cons_append, List.singleton_append, decode]
  simp only [high, low, number_eq, UInt8.ofNat_toNat]

/-- Bytes that are all written with percent signs are read back. -/
theorem decode_encodeBytes (bytes rest : Bytes) :
    decode (Utf8.encode (bytes.flatMap encodeByte) ++ rest) = bytes ++ decode rest := by
  induction bytes with
  | nil => rfl
  | cons byte bytes ih =>
    rw [List.flatMap_cons, Utf8.encode_append, List.append_assoc, decode_encodeByte, ih,
      List.cons_append]

end Percent

namespace Form

/-! ## Characters -/

/-- Whether a character can stand in a name or a value as it is written. -/
def isWritten (char : Char) : Bool := isPlain char || char == '+' || char == '%'

theorem isPlain_of_isAlphanum {char : Char} (alphanumeric : char.isAlphanum = true) :
    isPlain char = true := by
  simp [isPlain, alphanumeric]

theorem isPlain_bounds {char : Char} (plain : isPlain char = true) :
    0x20 < char.toNat ∧ char.toNat < 0x7F := by
  simp only [isPlain, Bool.or_eq_true, beq_iff_eq] at plain
  rcases plain with (((alphanumeric | rfl) | rfl) | rfl) | rfl
  · have bounds := Text.isAlphanum_bounds alphanumeric
    omega
  all_goals decide

/-- Written characters are visible. -/
theorem isWritten_bounds {char : Char} (written : isWritten char = true) :
    0x20 < char.toNat ∧ char.toNat < 0x7F := by
  simp only [isWritten, Bool.or_eq_true, beq_iff_eq] at written
  rcases written with (plain | rfl) | rfl
  · exact isPlain_bounds plain
  all_goals decide

theorem isWritten_of_mem_encodeText {text : List Char} {char : Char}
    (member : char ∈ encodeText text) : isWritten char = true := by
  obtain ⟨given, -, inside⟩ := List.mem_flatMap.1 member
  unfold encodeChar at inside
  split at inside
  · rw [List.mem_singleton] at inside
    rw [inside]
    rfl
  · rcases Percent.mem_encodeChar inside with ⟨rfl, plain⟩ | rfl | alphanumeric
    · have char_plain : isPlain char = true := by simpa using plain
      simp [isWritten, char_plain]
    · rfl
    · simp [isWritten, isPlain_of_isAlphanum alphanumeric]

/-- A sign that is not written separates what is written. -/
theorem not_mem_encodeText {sign : Char} (separates : isWritten sign = false) (text : List Char) :
    sign ∉ encodeText text := fun member => by
  rw [isWritten_of_mem_encodeText member] at separates
  cases separates

/-- Whether a character can stand in a form as it is written. -/
def isLine (char : Char) : Bool := isWritten char || char == '&' || char == '='

theorem isLine_of_mem_encodePair {pair : List Char × List Char} {char : Char}
    (member : char ∈ encodePair pair) : isLine char = true := by
  rcases List.mem_append.1 member with name | value
  · simp [isLine, isWritten_of_mem_encodeText name]
  · rcases List.mem_cons.1 value with rfl | value
    · rfl
    · simp [isLine, isWritten_of_mem_encodeText value]

theorem isLine_of_mem_encode {pairs : List (List Char × List Char)} {char : Char}
    (member : char ∈ encode pairs) : isLine char = true := by
  cases pairs with
  | nil => cases member
  | cons pair pairs =>
    rcases List.mem_append.1 member with first | later
    · exact isLine_of_mem_encodePair first
    · obtain ⟨other, -, inside⟩ := List.mem_flatMap.1 later
      rcases List.mem_cons.1 inside with rfl | inside
      · rfl
      · exact isLine_of_mem_encodePair inside

/-- A form consists of visible characters of ASCII. -/
theorem isLine_bounds {char : Char} (line : isLine char = true) :
    0x20 < char.toNat ∧ char.toNat < 0x7F := by
  simp only [isLine, Bool.or_eq_true, beq_iff_eq] at line
  rcases line with (written | rfl) | rfl
  · exact isWritten_bounds written
  all_goals decide

/-- A form can stand in the query of a URL as it is. -/
theorem not_inSpecialQuery_of_isLine {char : Char} (line : isLine char = true) :
    Percent.inSpecialQuery char = false := by
  obtain ⟨above, below⟩ := isLine_bounds line
  have no_control := Percent.not_isControl_of_visible above below
  have not_listed : ∀ other ∈ ['\'', ' ', '"', '#', '<', '>'], char ≠ other := by
    rintro other member rfl
    have refused := (@List.all_eq_true _ (fun other => !isLine other)
      ['\'', ' ', '"', '#', '<', '>']).1 (by decide) char member
    rw [line] at refused
    cases refused
  simp [Percent.inSpecialQuery, Percent.inQuery, no_control, not_listed]

/-! ## Names and values -/

/-- In what percent signs and digits spell, no plus sign stands for a space. -/
theorem map_plusToSpace_encodeBytes (bytes : Bytes) :
    (bytes.flatMap Percent.encodeByte).map plusToSpace = bytes.flatMap Percent.encodeByte := by
  refine (List.map_congr_left fun char member => ?_).trans (List.map_id _)
  obtain ⟨byte, -, inside⟩ := List.mem_flatMap.1 member
  have no_plus : char ≠ '+' := by
    rintro rfl
    rcases Percent.mem_encodeByte inside with percent | ⟨alphanumeric, -⟩
    · exact absurd percent (by decide)
    · exact absurd alphanumeric (by decide)
  exact if_neg no_plus

theorem decode_encodeChar (char : Char) (rest : Bytes) :
    Percent.decode (Utf8.encode ((encodeChar char).map plusToSpace) ++ rest) =
      String.utf8EncodeChar char ++ Percent.decode rest := by
  by_cases space : char = ' '
  · subst space
    exact Percent.decode_plain (by decide) rest
  · rw [encodeChar, if_neg space, Percent.encodeChar]
    by_cases plain : isPlain char = true
    · obtain ⟨-, below⟩ := isPlain_bounds plain
      have ascii : char.toNat < 0x80 := by omega
      have no_plus : plusToSpace char = char := if_neg (by
        rintro rfl
        exact absurd plain (by decide))
      have no_percent : UInt8.ofNat char.toNat ≠ 0x25 := by
        intro percent
        have number_eq := congrArg UInt8.toNat percent
        rw [UInt8.toNat_ofNat', Nat.mod_eq_of_lt (by omega)] at number_eq
        have char_eq : char = '%' := Char.toNat_inj.1 number_eq
        rw [char_eq] at plain
        exact absurd plain (by decide)
      rw [if_pos ⟨ascii, by simp [plain]⟩, List.map_singleton, no_plus, Utf8.encode,
        List.flatMap_singleton, Utf8.encodeChar_ascii ascii, List.singleton_append,
        Percent.decode_plain no_percent, List.singleton_append]
    · rw [if_neg fun kept => plain (by simpa using kept.2), map_plusToSpace_encodeBytes,
        Percent.decode_encodeBytes]

theorem decode_encodeText_append (text : List Char) (rest : Bytes) :
    Percent.decode (Utf8.encode ((encodeText text).map plusToSpace) ++ rest) =
      Utf8.encode text ++ Percent.decode rest := by
  induction text with
  | nil => rfl
  | cons char text ih =>
    rw [encodeText, List.flatMap_cons, ← encodeText, List.map_append, Utf8.encode_append,
      List.append_assoc, decode_encodeChar, ih, ← List.append_assoc]
    rfl

theorem decodeText_encodeText (text : List Char) : decodeText (encodeText text) = text := by
  have bytes_eq := decode_encodeText_append text []
  rw [List.append_nil, Percent.decode, List.append_nil] at bytes_eq
  rw [decodeText, bytes_eq, Utf8.decodeLossy_encode]

/-! ## Pairs -/

theorem decodePair_encodePair (pair : List Char × List Char) :
    decodePair (encodePair pair) = pair := by
  have name_ends : '=' ∉ encodeText pair.1 := not_mem_encodeText (by decide) pair.1
  rw [decodePair, encodePair, Text.splitOnce?_of_not_mem name_ends]
  simp only [decodeText_encodeText]

theorem separator_not_mem_encodePair (pair : List Char × List Char) : '&' ∉ encodePair pair := by
  rw [encodePair, List.mem_append, List.mem_cons, not_or, not_or]
  exact ⟨not_mem_encodeText (by decide) _, by decide, not_mem_encodeText (by decide) _⟩

theorem splitAll_encode (pair : List Char × List Char) (pairs : List (List Char × List Char)) :
    Text.splitAll '&' (encode (pair :: pairs)) = (pair :: pairs).map encodePair := by
  induction pairs generalizing pair with
  | nil =>
    have whole : encode [pair] = encodePair pair := List.append_nil _
    rw [whole, Text.splitAll_of_not_mem (separator_not_mem_encodePair pair)]
    rfl
  | cons second pairs ih =>
    have whole : encode (pair :: second :: pairs) =
        encodePair pair ++ '&' :: encode (second :: pairs) := rfl
    rw [whole, Text.splitAll_append, ih,
      Text.splitAll_of_not_mem (separator_not_mem_encodePair pair)]
    rfl

/-- Reading a form gives the named values that were written, in their order. -/
theorem decode_encode (pairs : List (List Char × List Char)) : decode (encode pairs) = pairs := by
  cases pairs with
  | nil => rfl
  | cons pair pairs =>
    have filled : ∀ piece ∈ (pair :: pairs).map encodePair, (!piece.isEmpty) = true := by
      intro piece member
      obtain ⟨other, -, rfl⟩ := List.mem_map.1 member
      simp [encodePair]
    have read_back : decodePair ∘ encodePair = id := funext decodePair_encodePair
    rw [decode, splitAll_encode, List.filter_eq_self.2 filled, List.map_map, read_back, List.map_id]

/-- A pair behind an ampersand is read behind the pairs before it, whatever these are. -/
theorem decode_append (front : List Char) (pair : List Char × List Char) :
    decode (front ++ '&' :: encodePair pair) = decode front ++ [pair] := by
  have filled : [encodePair pair].filter (!·.isEmpty) = [encodePair pair] := by simp [encodePair]
  rw [decode, Text.splitAll_append, Text.splitAll_of_not_mem (separator_not_mem_encodePair pair),
    List.filter_append, filled, List.map_append, List.map_singleton, decodePair_encodePair, decode]

/-! ## Lines -/

/-- The form of named values. -/
def line (pairs : List (String × String)) : List Char :=
  encode (pairs.map fun (name, value) => (name.toList, value.toList))

theorem isLine_of_mem_line {pairs : List (String × String)} {char : Char}
    (member : char ∈ line pairs) : isLine char = true :=
  isLine_of_mem_encode member

theorem decode_line (pairs : List (String × String)) :
    (decode (line pairs)).map (fun (name, value) => (String.ofList name, String.ofList value)) =
      pairs := by
  rw [line, decode_encode, List.map_map]
  exact List.map_id'' (fun pair => Prod.ext String.ofList_toList String.ofList_toList) pairs

end Form

end SignIn
