import SignIn.Proofs.Url.Form

/-!
# Spellings of a form

The same named values are read from a line whether or not some of its characters are spelled by
percent signs, as long as the signs that mean something in a form are left as they are.
-/

namespace SignIn

/-! ## Percent signs -/

namespace Percent

/-- Whether a byte means something after a percent sign, or is one. -/
def isSign (byte : UInt8) : Bool := byte == 0x25 || (hexValue? byte).isSome

/-- Some bytes are spelled by percent signs, but no percent sign and no digit is. -/
inductive Respells : Bytes → Bytes → Prop where
  /-- Nothing is spelled as nothing. -/
  | nil : Respells [] []
  /-- A byte may stay as it is. -/
  | kept {bytes written : Bytes} (byte : UInt8) (later : Respells bytes written) :
      Respells (byte :: bytes) (byte :: written)
  /-- A byte may be spelled unless it is a sign. -/
  | spelled {bytes written : Bytes} {byte : UInt8} (no_sign : isSign byte = false)
      (later : Respells bytes written) :
      Respells (byte :: bytes) (Utf8.encode (encodeByte byte) ++ written)

theorem Respells.append {front back front_written back_written : Bytes}
    (first : Respells front front_written) (second : Respells back back_written) :
    Respells (front ++ back) (front_written ++ back_written) := by
  induction first with
  | nil => exact second
  | kept byte later ih => exact .kept byte ih
  | spelled no_sign later ih =>
    rw [List.append_assoc]
    exact .spelled no_sign ih

theorem Respells.refl (bytes : Bytes) : Respells bytes bytes := by
  induction bytes with
  | nil => exact .nil
  | cons byte bytes ih => exact .kept byte ih

theorem respells_all {bytes : Bytes} (no_signs : ∀ byte ∈ bytes, isSign byte = false) :
    Respells bytes (Utf8.encode (bytes.flatMap encodeByte)) := by
  induction bytes with
  | nil => exact .nil
  | cons byte bytes ih =>
    rw [List.flatMap_cons, Utf8.encode_append]
    exact .spelled (no_signs byte List.mem_cons_self)
      (ih fun other member => no_signs other (List.mem_cons_of_mem _ member))

/-- A digit that is written is a digit that was given. -/
theorem Respells.digit {bytes written : Bytes} {first : UInt8}
    (respells : Respells bytes (first :: written)) (digit : (hexValue? first).isSome = true) :
    ∃ rest, bytes = first :: rest ∧ Respells rest written := by
  generalize all_eq : first :: written = all at respells
  cases respells with
  | nil => cases all_eq
  | kept byte later =>
    cases all_eq
    exact ⟨_, rfl, later⟩
  | spelled no_sign later =>
    have head_eq := congrArg List.head? all_eq
    have first_eq : first = 0x25 := Option.some.inj head_eq
    rw [first_eq] at digit
    cases digit

/-- Two digits stand at the start. -/
def StartsWithDigits (bytes : Bytes) : Prop :=
  ∃ first second rest, bytes = first :: second :: rest ∧ (hexValue? first).isSome = true ∧
    (hexValue? second).isSome = true

/-- Spelling makes no digits. -/
theorem Respells.startsWithDigits {bytes written : Bytes} (respells : Respells bytes written)
    (digits : StartsWithDigits written) : StartsWithDigits bytes := by
  obtain ⟨first, second, rest, rfl, first_digit, second_digit⟩ := digits
  obtain ⟨others, rfl, later⟩ := respells.digit first_digit
  obtain ⟨others, rfl, -⟩ := later.digit second_digit
  exact ⟨first, second, others, rfl, first_digit, second_digit⟩

/-- A percent sign stands for itself if no two digits follow it. -/
theorem decode_percent {bytes : Bytes} (no_digits : ¬StartsWithDigits bytes) :
    decode (0x25 :: bytes) = 0x25 :: decode bytes := by
  rw [decode.eq_def]
  split
  · rename_i first second rest bytes_eq
    cases bytes_eq
    split
    · rename_i high low high_eq low_eq
      exact absurd ⟨first, second, rest, rfl, by rw [high_eq]; rfl, by rw [low_eq]; rfl⟩ no_digits
    · rfl
  · rename_i bytes_eq
    cases bytes_eq
    rfl
  · rename_i bytes_eq
    cases bytes_eq

/-- A sign that was given is written as it is. -/
theorem Respells.sign {bytes written : Bytes} {byte : UInt8}
    (respells : Respells (byte :: bytes) written) (sign : isSign byte = true) :
    ∃ later, written = byte :: later ∧ Respells bytes later := by
  cases respells with
  | kept _ later => exact ⟨_, rfl, later⟩
  | spelled no_sign later =>
    rw [sign] at no_sign
    cases no_sign

/-- However bytes are spelled, the same is read. -/
theorem Respells.decode_eq {bytes written : Bytes} (respells : Respells bytes written) :
    decode written = decode bytes := by
  fun_induction decode bytes generalizing written with
  | case1 first second rest high low low_eq high_eq ih =>
    have first_sign : isSign first = true := by simp [isSign, high_eq]
    have second_sign : isSign second = true := by simp [isSign, low_eq]
    obtain ⟨_, rfl, from_first⟩ := respells.sign (by decide)
    obtain ⟨_, rfl, from_second⟩ := from_first.sign first_sign
    obtain ⟨_, rfl, behind⟩ := from_second.sign second_sign
    rw [decode, high_eq, low_eq]
    dsimp only
    rw [ih behind]
  | case2 first second rest no_digits ih =>
    obtain ⟨_, rfl, behind⟩ := respells.sign (by decide)
    rw [decode_percent fun digits => ?_, ih behind]
    obtain ⟨_, _, _, ⟨⟩, high, low⟩ := behind.startsWithDigits digits
    exact no_digits _ _ (Option.some_get high).symm (Option.some_get low).symm
  | case3 byte rest short ih =>
    cases respells with
    | spelled no_sign later => rw [decode_encodeByte, ih later]
    | kept _ later =>
      by_cases percent : byte = 0x25
      · subst percent
        rw [decode_percent fun digits => ?_, ih later]
        obtain ⟨first, second, others, rest_eq, -⟩ := later.startsWithDigits digits
        exact short first second others rfl rest_eq
      · rw [decode_plain percent, ih later]
  | case4 =>
    cases respells
    rfl

theorem isSign_bounds {byte : UInt8} (sign : isSign byte = true) :
    byte.toNat = 0x25 ∨ (0x30 ≤ byte.toNat ∧ byte.toNat ≤ 0x39) ∨
      (0x41 ≤ byte.toNat ∧ byte.toNat ≤ 0x46) ∨ (0x61 ≤ byte.toNat ∧ byte.toNat ≤ 0x66) := by
  rw [isSign, Bool.or_eq_true, beq_iff_eq] at sign
  rcases sign with rfl | digit
  · exact .inl rfl
  · unfold hexValue? at digit
    split at digit
    · rename_i decimal
      exact .inr (.inl decimal)
    · split at digit
      · rename_i capital
        exact .inr (.inr (.inl capital))
      · split at digit
        · rename_i small
          exact .inr (.inr (.inr small))
        · cases digit

/-- A sign can stand in a form. -/
theorem isLine_of_isSign {char : Char} (ascii : char.toNat < 0x80)
    (sign : isSign (UInt8.ofNat char.toNat) = true) : Form.isLine char = true := by
  have bounds := isSign_bounds sign
  rw [UInt8.toNat_ofNat', Nat.mod_eq_of_lt (by omega)] at bounds
  rcases bounds with percent | digit
  · have char_eq : char = '%' := Char.toNat_inj.1 percent
    rw [char_eq]
    decide
  · have alphanumeric : char.isAlphanum = true := Text.isAlphanum_of_bounds (by omega)
    simp [Form.isLine, Form.isWritten, Form.isPlain_of_isAlphanum alphanumeric]

theorem isEmpty_encode (encoded : Char → Bool) (text : List Char) :
    (encode encoded text).isEmpty = text.isEmpty := by
  cases text with
  | nil => rfl
  | cons char text =>
    have char_ne : encodeChar encoded char ≠ [] := by
      unfold encodeChar
      split
      · simp
      · obtain ⟨byte, bytes, bytes_eq⟩ :=
          List.exists_cons_of_ne_nil (@String.utf8EncodeChar_ne_nil char)
        simp [bytes_eq, encodeByte]
    simp [encode, char_ne]

section

variable {encoded : Char → Bool} (spares : ∀ char, Form.isLine char = true → encoded char = false)
include spares

/-- A character that is encoded although signs are not has no signs among its bytes. -/
theorem not_isSign_of_mem {char : Char} (written : ¬(char.toNat < 0x80 ∧ encoded char = false)) :
    ∀ byte ∈ String.utf8EncodeChar char, isSign byte = false := by
  intro byte member
  refine Bool.eq_false_iff.2 fun sign => ?_
  by_cases ascii : char.toNat < 0x80
  · rw [Utf8.encodeChar_ascii ascii, List.mem_singleton] at member
    rw [member] at sign
    exact written ⟨ascii, spares char (isLine_of_isSign ascii sign)⟩
  · have above := Utf8.above_of_mem_encodeChar ascii member
    have bounds := isSign_bounds sign
    omega

end

end Percent

namespace Form

/-- No character is encoded as another one that separates the parts of a form. -/
theorem not_mem_encodeChar {encoded : Char → Bool} {sign char : Char}
    (separates : isWritten sign = false) (other : char ≠ sign) :
    sign ∉ Percent.encodeChar encoded char := by
  intro member
  rcases Percent.mem_encodeChar member with ⟨same, -⟩ | rfl | alphanumeric
  · exact other same.symm
  · cases separates
  · simp [isWritten, isPlain_of_isAlphanum alphanumeric] at separates

section

variable {encoded : Char → Bool} (spares : ∀ char, isLine char = true → encoded char = false)
include spares

theorem encodeChar_of_isLine {sign : Char} (line : isLine sign = true) :
    Percent.encodeChar encoded sign = [sign] := by
  have below := (isLine_bounds line).2
  exact if_pos ⟨by omega, spares sign line⟩

theorem respells_encodeChar (char : Char) :
    Percent.Respells (String.utf8EncodeChar (plusToSpace char))
      (Utf8.encode ((Percent.encodeChar encoded char).map plusToSpace)) := by
  unfold Percent.encodeChar
  split
  · rw [List.map_singleton, Utf8.encode, List.flatMap_singleton]
    exact .refl _
  · rename_i written
    have no_plus : char ≠ '+' := by
      rintro rfl
      exact written ⟨by decide, spares '+' (by decide)⟩
    rw [map_plusToSpace_encodeBytes, plusToSpace, if_neg no_plus]
    exact Percent.respells_all (Percent.not_isSign_of_mem spares written)

theorem respells_encode (piece : List Char) :
    Percent.Respells (Utf8.encode (piece.map plusToSpace))
      (Utf8.encode ((Percent.encode encoded piece).map plusToSpace)) := by
  induction piece with
  | nil => exact .nil
  | cons char piece ih =>
    rw [Percent.encode, List.flatMap_cons, ← Percent.encode, List.map_append, Utf8.encode_append]
    exact (respells_encodeChar spares char).append ih

/-- What is encoded in a name or a value is decoded again. -/
theorem decodeText_encode (piece : List Char) :
    decodeText (Percent.encode encoded piece) = decodeText piece := by
  rw [decodeText, decodeText, (respells_encode spares piece).decode_eq]

theorem decodePair_encode (piece : List Char) :
    decodePair (Percent.encode encoded piece) = decodePair piece := by
  have kept : Percent.encodeChar encoded '=' = ['='] := encodeChar_of_isLine spares (by decide)
  have split_eq := Text.splitOnce?_flatMap kept
    (fun char other => not_mem_encodeChar (by decide) other) piece
  rw [decodePair, decodePair, Percent.encode, split_eq]
  cases Text.splitOnce? '=' piece with
  | none => exact congrArg (·, []) (decodeText_encode spares piece)
  | some parts =>
    exact Prod.ext (decodeText_encode spares parts.1) (decodeText_encode spares parts.2)

/-- Encoding what needs it in a form changes none of the named values that are read. -/
theorem decode_percentEncode (line : List Char) :
    decode (Percent.encode encoded line) = decode line := by
  have kept : Percent.encodeChar encoded '&' = ['&'] := encodeChar_of_isLine spares (by decide)
  have split_eq := Text.splitAll_flatMap kept
    (fun char other => not_mem_encodeChar (by decide) other) line
  have same_filled : (fun piece => !piece.isEmpty) ∘ Percent.encode encoded =
      fun piece => !piece.isEmpty :=
    funext fun piece => congrArg (!·) (Percent.isEmpty_encode encoded piece)
  have same_pairs : decodePair ∘ Percent.encode encoded = decodePair :=
    funext (decodePair_encode spares)
  rw [decode, decode, Percent.encode, split_eq, List.filter_map, List.map_map]
  change List.map (decodePair ∘ Percent.encode encoded)
    (List.filter ((fun piece => !piece.isEmpty) ∘ Percent.encode encoded) _) = _
  rw [same_filled, same_pairs]

end

end Form

end SignIn
