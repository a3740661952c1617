import SignIn.Proofs.Utf8

/-!
# Bytes that are no text

What bytes stand for as text, said without a reader: a character stands for itself, and an
ill-formed part, which is as long as the start of a character can be, for one U+FFFD.  The lossy
reading finds exactly this, so it can be cut between any two characters.
-/

namespace SignIn.Utf8

/-! ## What bytes stand for -/

/-- Bytes with which the bytes of a character begin. -/
def Begins (bytes : Bytes) : Prop := ∃ char, bytes <+: String.utf8EncodeChar char

/-- The ill-formed part at the start of bytes that go on with `rest`. -/
structure IsIllFormed (part rest : Bytes) : Prop where
  /-- The part is not empty. -/
  ne_nil : part ≠ []
  /-- No character stands there. -/
  no_char : ∀ char, ¬String.utf8EncodeChar char <+: part ++ rest
  /-- The part is the start of a character, or a single byte. -/
  begins : Begins part ∨ part.length = 1
  /-- No longer start of a character stands there. -/
  longest : ∀ longer, longer <+: part ++ rest → Begins longer → longer.length ≤ part.length

/-- The text that bytes stand for. -/
inductive StandsFor : Bytes → List Char → Prop where
  /-- No bytes stand for no text. -/
  | nil : StandsFor [] []
  /-- The bytes of a character stand for it. -/
  | char {rest : Bytes} {text : List Char} (char : Char) (later : StandsFor rest text) :
      StandsFor (String.utf8EncodeChar char ++ rest) (char :: text)
  /-- An ill-formed part stands for the replacement character. -/
  | illFormed {part rest : Bytes} {text : List Char} (broken : IsIllFormed part rest)
      (later : StandsFor rest text) : StandsFor (part ++ rest) (replacement :: text)

theorem StandsFor.behind {rest : Bytes} {text : List Char} (later : StandsFor rest text)
    (front : List Char) : StandsFor (encode front ++ rest) (front ++ text) := by
  induction front with
  | nil => exact later
  | cons char front ih =>
    rw [encode, List.flatMap_cons, ← encode, List.append_assoc]
    exact .char char ih

/-- A text is what its bytes stand for. -/
theorem standsFor_encode (text : List Char) : StandsFor (encode text) text := by
  simpa using StandsFor.nil.behind text

theorem IsIllFormed.shorten {part front back : Bytes} (broken : IsIllFormed part (front ++ back)) :
    IsIllFormed part front := by
  have shorter : part ++ front <+: part ++ (front ++ back) := ⟨back, List.append_assoc ..⟩
  exact ⟨broken.ne_nil, fun char start => broken.no_char char (start.trans shorter), broken.begins,
    fun longer start => broken.longest longer (start.trans shorter)⟩

/-- Wherever the text is cut, the bytes can be cut. -/
theorem StandsFor.cut {bytes : Bytes} {text : List Char} (stands : StandsFor bytes text)
    (count : Nat) : ∃ front back, bytes = front ++ back ∧ StandsFor front (text.take count) ∧
      StandsFor back (text.drop count) := by
  induction stands generalizing count with
  | nil => exact ⟨[], [], rfl, by simpa using .nil, by simpa using .nil⟩
  | char char later ih =>
    cases count with
    | zero => exact ⟨[], _, rfl, .nil, .char char later⟩
    | succ count =>
      obtain ⟨front, back, rfl, front_ok, back_ok⟩ := ih count
      exact ⟨_, back, (List.append_assoc ..).symm, .char char front_ok, back_ok⟩
  | illFormed broken later ih =>
    cases count with
    | zero => exact ⟨[], _, rfl, .nil, .illFormed broken later⟩
    | succ count =>
      obtain ⟨front, back, rfl, front_ok, back_ok⟩ := ih count
      exact ⟨_, back, (List.append_assoc ..).symm, .illFormed broken.shorten front_ok, back_ok⟩

/-! ## Characters and their bytes -/

/-- What a first byte says of its character: its leading bits, and bounds on the second byte that
rule out overlong forms, surrogates and numbers beyond the last character. -/
inductive Leads : UInt8 → Lead → Prop where
  /-- One byte follows. -/
  | two {byte : UInt8} {bits : Nat} (byte_eq : byte.toNat = bits + 0xC0) (above : 2 ≤ bits)
      (below : bits < 32) : Leads byte ⟨bits, 1, 0x80, 0xBF⟩
  /-- Two bytes follow. -/
  | three {byte least greatest : UInt8} {bits : Nat} (byte_eq : byte.toNat = bits + 0xE0)
      (below : bits < 16) (overlong : bits = 0 → 0xA0 ≤ least.toNat)
      (surrogate : bits = 13 → greatest.toNat ≤ 0x9F) : Leads byte ⟨bits, 2, least, greatest⟩
  /-- Three bytes follow. -/
  | four {byte least greatest : UInt8} {bits : Nat} (byte_eq : byte.toNat = bits + 0xF0)
      (below : bits ≤ 4) (overlong : bits = 0 → 0x90 ≤ least.toNat)
      (beyond : bits = 4 → greatest.toNat ≤ 0x8F) : Leads byte ⟨bits, 3, least, greatest⟩

theorem leads_of_lead? {byte : UInt8} {lead : Lead} (led : lead? byte = some lead) :
    Leads byte lead := by
  unfold lead? at led
  simp only [UInt8.le_iff_toNat_le, ← UInt8.toNat_inj, UInt8.reduceToNat] at led
  split at led
  · cases led
    exact .two (by omega) (by omega) (by omega)
  split at led
  · cases led
    exact .three (by omega) (by omega) (fun _ => Nat.le_refl _) (by omega)
  split at led
  · cases led
    exact .three (by omega) (by omega) (by omega) (fun _ => Nat.le_refl _)
  split at led
  · cases led
    exact .three (by omega) (by omega) (by omega) (by omega)
  split at led
  · cases led
    exact .four (by omega) (by omega) (fun _ => Nat.le_refl _) (by omega)
  split at led
  · cases led
    exact .four (by omega) (by omega) (by omega) (by omega)
  split at led
  · cases led
    exact .four (by omega) (by omega) (by omega) (fun _ => Nat.le_refl _)
  · cases led

theorem toNat_char {number : Nat} (scalar : number.isValidChar) :
    (Char.ofNat number).val.toNat = number := by
  rw [Char.ofNat, dif_pos scalar]
  rfl

theorem encodeChar_one {number : Nat} (below : number < 0x80) :
    String.utf8EncodeChar (Char.ofNat number) = [UInt8.ofNat number] := by
  have valid : number.isValidChar := .inl (by omega)
  simp only [String.utf8EncodeChar, toNat_char valid]
  rw [if_pos (by omega)]

theorem encodeChar_two {number : Nat} (above : 0x80 ≤ number) (below : number < 0x800) :
    String.utf8EncodeChar (Char.ofNat number) =
      [UInt8.ofNat (number / 64 + 0xC0), UInt8.ofNat (number % 64 + 0x80)] := by
  have valid : number.isValidChar := .inl (by omega)
  have bits_eq : number / 64 % 32 = number / 64 := by omega
  simp only [String.utf8EncodeChar, toNat_char valid, bits_eq]
  rw [if_neg (by omega), if_pos (by omega)]

theorem encodeChar_three {number : Nat} (above : 0x800 ≤ number) (below : number < 0x10000)
    (scalar : number < 0xD800 ∨ 0xDFFF < number) :
    String.utf8EncodeChar (Char.ofNat number) =
      [UInt8.ofNat (number / 4096 + 0xE0), UInt8.ofNat (number / 64 % 64 + 0x80),
        UInt8.ofNat (number % 64 + 0x80)] := by
  have valid : number.isValidChar := scalar.imp_right fun high => ⟨high, by omega⟩
  have bits_eq : number / 4096 % 16 = number / 4096 := by omega
  simp only [String.utf8EncodeChar, toNat_char valid, bits_eq]
  rw [if_neg (by omega), if_neg (by omega), if_pos (by omega)]

theorem encodeChar_four {number : Nat} (above : 0x10000 ≤ number) (below : number < 0x110000) :
    String.utf8EncodeChar (Char.ofNat number) =
      [UInt8.ofNat (number / 262144 + 0xF0), UInt8.ofNat (number / 4096 % 64 + 0x80),
        UInt8.ofNat (number / 64 % 64 + 0x80), UInt8.ofNat (number % 64 + 0x80)] := by
  have valid : number.isValidChar := .inr ⟨by omega, below⟩
  have bits_eq : number / 262144 % 8 = number / 262144 := by omega
  simp only [String.utf8EncodeChar, toNat_char valid, bits_eq]
  rw [if_neg (by omega), if_neg (by omega), if_neg (by omega)]

theorem eq_ofNat {byte : UInt8} {number : Nat} (toNat_eq : byte.toNat = number) :
    byte = UInt8.ofNat number := by
  rw [← toNat_eq, UInt8.ofNat_toNat]

theorem follow_succ_eq_some {count bits number : Nat} {least greatest : UInt8} {bytes after : Bytes}
    (read : follow (count + 1) least greatest bits bytes = (some number, after)) :
    ∃ byte rest, bytes = byte :: rest ∧ least.toNat ≤ byte.toNat ∧ byte.toNat ≤ greatest.toNat ∧
      follow count 0x80 0xBF (bits * 64 + byte.toNat % 64) rest = (some number, after) := by
  cases bytes with
  | nil => cases read
  | cons byte rest =>
    rw [follow] at read
    split at read
    · rename_i inside
      exact ⟨byte, rest, rfl, UInt8.le_iff_toNat_le.1 inside.1, UInt8.le_iff_toNat_le.1 inside.2,
        read⟩
    · cases read

/-- What is read as a character is the bytes of that character. -/
theorem encodeChar_of_follow {byte : UInt8} {lead : Lead} {bytes after : Bytes} {number : Nat}
    (led : lead? byte = some lead)
    (read : follow lead.following lead.least lead.greatest lead.bits bytes = (some number, after)) :
    byte :: bytes = String.utf8EncodeChar (Char.ofNat number) ++ after := by
  obtain ⟨least_ge, greatest_le⟩ := lead?_bounds led
  rw [UInt8.le_iff_toNat_le] at least_ge greatest_le
  simp only [UInt8.reduceToNat] at least_ge greatest_le
  cases leads_of_lead? led with
  | two byte_eq above below =>
    dsimp only at least_ge greatest_le read
    obtain ⟨second, rest, rfl, second_ge, second_le, read⟩ := follow_succ_eq_some read
    cases read
    simp only [UInt8.reduceToNat] at second_ge second_le
    rw [encodeChar_two (by omega) (by omega), ← @eq_ofNat byte _ (by omega),
      ← @eq_ofNat second _ (by omega)]
    rfl
  | three byte_eq below overlong surrogate =>
    dsimp only at least_ge greatest_le read
    obtain ⟨second, rest, rfl, second_ge, second_le, read⟩ := follow_succ_eq_some read
    obtain ⟨third, rest, rfl, third_ge, third_le, read⟩ := follow_succ_eq_some read
    cases read
    simp only [UInt8.reduceToNat] at third_ge third_le
    rw [encodeChar_three (by omega) (by omega) (by omega), ← @eq_ofNat byte _ (by omega),
      ← @eq_ofNat second _ (by omega), ← @eq_ofNat third _ (by omega)]
    rfl
  | four byte_eq below overlong beyond =>
    dsimp only at least_ge greatest_le read
    obtain ⟨second, rest, rfl, second_ge, second_le, read⟩ := follow_succ_eq_some read
    obtain ⟨third, rest, rfl, third_ge, third_le, read⟩ := follow_succ_eq_some read
    obtain ⟨fourth, rest, rfl, fourth_ge, fourth_le, read⟩ := follow_succ_eq_some read
    cases read
    simp only [UInt8.reduceToNat] at third_ge third_le fourth_ge fourth_le
    rw [encodeChar_four (by omega) (by omega), ← @eq_ofNat byte _ (by omega),
      ← @eq_ofNat second _ (by omega), ← @eq_ofNat third _ (by omega),
      ← @eq_ofNat fourth _ (by omega)]
    rfl

/-! ## Ill-formed parts and their bytes -/

/-- What is read of a character that breaks off can be completed, but not by the byte that comes
next. -/
structure BreaksOff (count : Nat) (least greatest : UInt8) (bits : Nat) (part after : Bytes) :
    Prop where
  /-- Some other bytes would have completed the character. -/
  completed : ∃ more number,
    follow count least greatest bits (part ++ more) = (some number, [])
  /-- The byte that comes next does not, whatever comes behind it. -/
  refused : ∀ byte, after.head? = some byte → ∀ more,
    (follow count least greatest bits (part ++ byte :: more)).1 = none

theorem lead?_least_le {byte : UInt8} {lead : Lead} (led : lead? byte = some lead) :
    lead.least ≤ lead.greatest := by
  unfold lead? at led
  repeat' split at led
  all_goals cases led
  all_goals exact of_decide_eq_true rfl

/-- A character can be begun with any bounds that allow a byte. -/
theorem follow_least (count bits : Nat) {least greatest : UInt8} (bounds : least ≤ greatest) :
    ∃ more number, follow count least greatest bits more = (some number, []) := by
  induction count generalizing least greatest bits with
  | zero => exact ⟨[], bits, rfl⟩
  | succ count ih =>
    have anything : (0x80 : UInt8) ≤ 0xBF := by decide
    obtain ⟨more, number, read⟩ := ih (bits * 64 + least.toNat % 64) anything
    refine ⟨least :: more, number, ?_⟩
    rw [follow, if_pos ⟨UInt8.le_refl _, bounds⟩, read]

theorem follow_eq_none {count bits : Nat} {least greatest : UInt8} {bytes after : Bytes}
    (bounds : least ≤ greatest)
    (read : follow count least greatest bits bytes = (none, after)) :
    ∃ part, bytes = part ++ after ∧ BreaksOff count least greatest bits part after := by
  induction count generalizing least greatest bits bytes with
  | zero => cases read
  | succ count ih =>
    cases bytes with
    | nil =>
      cases read
      exact ⟨[], rfl, follow_least _ _ bounds, nofun⟩
    | cons byte rest =>
      rw [follow] at read
      split at read
      · rename_i inside
        obtain ⟨part, rfl, ⟨more, number, completed⟩, refused⟩ := ih (by decide) read
        refine ⟨byte :: part, rfl, ⟨more, number, ?_⟩, fun next next_eq more => ?_⟩
        · rw [List.cons_append, follow, if_pos inside, completed]
        · rw [List.cons_append, follow, if_pos inside, refused next next_eq more]
      · rename_i outside
        cases read
        refine ⟨[], rfl, follow_least _ _ bounds, fun next next_eq more => ?_⟩
        cases next_eq
        rw [List.nil_append, follow, if_neg outside]

theorem head?_pieces_of_char {char : Char} {bytes : Bytes}
    (start : String.utf8EncodeChar char <+: bytes) : (pieces bytes).head? = some (some char) := by
  obtain ⟨rest, rfl⟩ := start
  rw [pieces_encodeChar_append, List.head?_cons]

/-- Bytes that go on with one that is not read as part of their character begin no character. -/
theorem not_begins_of_pieces {bytes : Bytes}
    (refused : ∀ more, (pieces (bytes ++ more)).head? = some none) : ¬Begins bytes := by
  rintro ⟨char, more, whole⟩
  have start : String.utf8EncodeChar char <+: bytes ++ more :=
    ⟨[], by rw [List.append_nil, whole]⟩
  have head_eq := head?_pieces_of_char start
  rw [refused] at head_eq
  cases head_eq

/-- A part is ill-formed if no byte behind it can belong to it. -/
theorem isIllFormed_of_pieces {part after : Bytes} (ne_nil : part ≠ [])
    (begins : Begins part ∨ part.length = 1)
    (broken : (pieces (part ++ after)).head? = some none)
    (refused : ∀ byte, after.head? = some byte →
      ∀ more, (pieces (part ++ byte :: more)).head? = some none) : IsIllFormed part after := by
  refine ⟨ne_nil, fun char start => ?_, begins, fun longer start longer_begins => ?_⟩
  · rw [head?_pieces_of_char start] at broken
    cases broken
  · refine Nat.le_of_not_lt fun longer_than => ?_
    obtain ⟨more, rfl⟩ :=
      List.prefix_of_prefix_length_le ⟨after, rfl⟩ start (Nat.le_of_lt longer_than)
    rw [List.prefix_append_right_inj] at start
    cases more with
    | nil => simp at longer_than
    | cons byte more =>
      obtain ⟨rest, rfl⟩ := start
      refine not_begins_of_pieces (fun others => ?_) longer_begins
      rw [List.append_assoc]
      exact refused byte rfl (more ++ others)

theorem isIllFormed_of_stray {byte : UInt8} (long : ¬byte < 0x80) (stray : lead? byte = none)
    (rest : Bytes) : IsIllFormed [byte] rest := by
  have head_eq (more : Bytes) : (pieces (byte :: more)).head? = some none := by
    rw [pieces_stray long stray, List.head?_cons]
  exact isIllFormed_of_pieces (by simp) (.inr rfl) (head_eq rest) fun next _ more =>
    head_eq (next :: more)

/-- A character that breaks off is an ill-formed part. -/
theorem isIllFormed_of_follow {byte : UInt8} {lead : Lead} {part after : Bytes}
    (long : ¬byte < 0x80) (led : lead? byte = some lead)
    (breaks : BreaksOff lead.following lead.least lead.greatest lead.bits part after)
    (read : (follow lead.following lead.least lead.greatest lead.bits (part ++ after)).1 = none) :
    IsIllFormed (byte :: part) after := by
  have head_eq (bytes : Bytes)
      (none_read : (follow lead.following lead.least lead.greatest lead.bits bytes).1 = none) :
      (pieces (byte :: bytes)).head? = some none := by
    rw [pieces_led long led, none_read, List.head?_cons, Option.map_none]
  obtain ⟨more, number, completed⟩ := breaks.completed
  have whole := encodeChar_of_follow led completed
  rw [List.append_nil] at whole
  exact isIllFormed_of_pieces (by simp) (.inl ⟨_, more, whole⟩) (head_eq _ read)
    fun next next_eq others => head_eq _ (breaks.refused next next_eq others)

/-- The first piece of bytes is a character or an ill-formed part. -/
theorem pieces_cons (byte : UInt8) (bytes : Bytes) :
    (∃ char after, byte :: bytes = String.utf8EncodeChar char ++ after) ∨
      ∃ part after, byte :: bytes = part ++ after ∧ IsIllFormed part after ∧
        pieces (byte :: bytes) = none :: pieces after := by
  by_cases plain : byte < 0x80
  · have below := UInt8.lt_iff_toNat_lt.1 plain
    refine .inl ⟨Char.ofNat byte.toNat, bytes, ?_⟩
    rw [encodeChar_one below, UInt8.ofNat_toNat]
    rfl
  · cases led : lead? byte with
    | none =>
      exact .inr ⟨[byte], bytes, rfl, isIllFormed_of_stray plain led bytes,
        pieces_stray plain led bytes⟩
    | some lead =>
      rcases read : follow lead.following lead.least lead.greatest lead.bits bytes with
        ⟨number | number, after⟩
      · have pieces_eq := pieces_led plain led bytes
        rw [read, Option.map_none] at pieces_eq
        obtain ⟨part, rfl, breaks⟩ := follow_eq_none (lead?_least_le led) read
        exact .inr ⟨byte :: part, after, rfl,
          isIllFormed_of_follow plain led breaks (by rw [read]), pieces_eq⟩
      · exact .inl ⟨_, after, encodeChar_of_follow led read⟩

/-- The lossy reading of bytes is what they stand for. -/
theorem standsFor_decodeLossy (bytes : Bytes) : StandsFor bytes (decodeLossy bytes) := by
  -- A piece has up to four bytes, so what is left need not be the tail.
  induction size : bytes.length using Nat.strongRecOn generalizing bytes with
  | ind length ih =>
    subst size
    cases bytes with
    | nil =>
      rw [decodeLossy, pieces]
      exact .nil
    | cons byte bytes =>
      rcases pieces_cons byte bytes with ⟨char, after, bytes_eq⟩ |
        ⟨part, after, bytes_eq, broken, pieces_eq⟩
      · have shorter : after.length < (byte :: bytes).length := by
          rw [bytes_eq, List.length_append, String.length_utf8EncodeChar]
          exact Nat.lt_add_of_pos_left char.utf8Size_pos
        rw [bytes_eq, decodeLossy, pieces_encodeChar_append]
        exact .char char (ih _ shorter after rfl)
      · have shorter : after.length < (byte :: bytes).length := by
          rw [bytes_eq, List.length_append]
          exact Nat.lt_add_of_pos_left (List.length_pos_iff.2 broken.ne_nil)
        rw [decodeLossy, pieces_eq, bytes_eq]
        exact .illFormed broken (ih _ shorter after rfl)

theorem IsIllFormed.length_le {part rest other after : Bytes} (broken : IsIllFormed part rest)
    (other_broken : IsIllFormed other after) (same : part ++ rest = other ++ after) :
    other.length ≤ part.length := by
  rcases other_broken.begins with begins | single
  · exact broken.longest other ⟨after, same.symm⟩ begins
  · rw [single]
    exact List.length_pos_iff.2 broken.ne_nil

/-- An ill-formed part is one piece. -/
theorem IsIllFormed.pieces_eq {part rest : Bytes} (broken : IsIllFormed part rest) :
    pieces (part ++ rest) = none :: pieces rest := by
  obtain ⟨byte, bytes, part_eq⟩ := List.exists_cons_of_ne_nil broken.ne_nil
  have whole_eq : part ++ rest = byte :: (bytes ++ rest) := by rw [part_eq, List.cons_append]
  rcases pieces_cons byte (bytes ++ rest) with ⟨char, after, bytes_eq⟩ |
    ⟨other, after, bytes_eq, other_broken, pieces_eq⟩
  · rw [← whole_eq] at bytes_eq
    exact absurd ⟨after, bytes_eq.symm⟩ (broken.no_char char)
  · rw [← whole_eq] at bytes_eq pieces_eq
    have same_length : part.length = other.length :=
      Nat.le_antisymm (other_broken.length_le broken bytes_eq.symm)
        (broken.length_le other_broken bytes_eq)
    obtain ⟨-, rfl⟩ := List.append_inj bytes_eq same_length
    exact pieces_eq

/-- Bytes stand for one text, the one that the lossy reading finds. -/
theorem standsFor_iff {bytes : Bytes} {text : List Char} :
    StandsFor bytes text ↔ text = decodeLossy bytes := by
  constructor
  · intro stands
    induction stands with
    | nil => rw [decodeLossy, pieces, List.map_nil]
    | char char later ih => rw [decodeLossy, pieces_encodeChar_append, List.map_cons, ih]; rfl
    | illFormed broken later ih => rw [decodeLossy, broken.pieces_eq, List.map_cons, ih]; rfl
  · rintro rfl
    exact standsFor_decodeLossy bytes

end SignIn.Utf8
