import SignIn.Text.Utf8

/-!
# Pieces of text

The pieces of two byte sequences in a row are the pieces of the one and then those of the other,
unless a character lies across the border.
-/

namespace SignIn.Utf8

/-- Bytes in which nothing is ill-formed. -/
def WellFormed (bytes : Bytes) : Prop := none ∉ pieces bytes

/-- Whether a byte can be any but the first of a character. -/
def Continues (byte : UInt8) : Prop := 0x80 ≤ byte ∧ byte ≤ 0xBF

/-- Bytes that cannot complete a character that has begun before them. -/
def StartsAnew (bytes : Bytes) : Prop := ∀ byte, bytes.head? = some byte → ¬Continues byte

theorem mapM_id_isSome (pieces : List (Option Char)) :
    (pieces.mapM id).isSome = true ↔ none ∉ pieces := by
  induction pieces with
  | nil => simp
  | cons piece pieces ih =>
    cases piece with
    | none => simp
    | some char =>
      rw [List.mapM_cons, List.mem_cons, not_or, ← ih]
      cases pieces.mapM id <;> simp

theorem wellFormed_iff {bytes : Bytes} : WellFormed bytes ↔ (decode? bytes).isSome = true :=
  (mapM_id_isSome _).symm

theorem wellFormed_of_decode {bytes : Bytes} {text : List Char}
    (decoded : decode? bytes = some text) : WellFormed bytes := by
  rw [wellFormed_iff, decoded]
  rfl

/-! ## Borders -/

theorem lead?_bounds {byte : UInt8} {lead : Lead} (led : lead? byte = some lead) :
    0x80 ≤ lead.least ∧ lead.greatest ≤ 0xBF := by
  unfold lead? at led
  repeat' split at led
  all_goals cases led
  all_goals exact ⟨of_decide_eq_true rfl, of_decide_eq_true rfl⟩

/-- What comes after a character, or after bytes that are no more than its start, does not change
how it is read. -/
theorem follow_append {count : Nat} {least greatest : UInt8} {bits : Nat} {front back : Bytes}
    (least_ge : 0x80 ≤ least) (greatest_le : greatest ≤ 0xBF)
    (border : (follow count least greatest bits front).1 ≠ none ∨ StartsAnew back) :
    follow count least greatest bits (front ++ back) =
      ((follow count least greatest bits front).1,
        (follow count least greatest bits front).2 ++ back) := by
  induction count generalizing least greatest bits front with
  | zero => rfl
  | succ count ih =>
    cases front with
    | nil =>
      have anew : StartsAnew back := by simpa [follow] using border
      cases back with
      | nil => rfl
      | cons byte back =>
        have outside : ¬(least ≤ byte ∧ byte ≤ greatest) := by
          rintro ⟨above, below⟩
          exact anew byte rfl ⟨UInt8.le_trans least_ge above, UInt8.le_trans below greatest_le⟩
        simp [follow, outside]
    | cons byte front =>
      rw [follow] at border
      rw [List.cons_append, follow, follow]
      split at border
      next inside =>
        rw [if_pos inside, if_pos inside]
        exact ih (by decide) (by decide) border
      next outside => simp [outside]

theorem pieces_append {front back : Bytes} (border : WellFormed front ∨ StartsAnew back) :
    pieces (front ++ back) = pieces front ++ pieces back := by
  -- A piece has up to four bytes, so what is left need not be the tail.
  induction size : front.length using Nat.strongRecOn generalizing front with
  | ind length ih =>
    subst size
    cases front with
    | nil => simp [pieces]
    | cons byte front =>
      rw [List.cons_append, pieces, pieces]
      unfold WellFormed at border
      rw [pieces] at border
      by_cases plain : byte < 0x80
      · rw [if_pos plain] at border ⊢
        rw [if_pos plain, ih _ (Nat.lt_succ_self _) (border.imp_left (by simp [WellFormed])) rfl,
          List.cons_append]
      · rw [if_neg plain] at border ⊢
        rw [if_neg plain]
        cases led : lead? byte with
        | none =>
          have anew : StartsAnew back := by simpa [led] using border
          simp only [List.cons_append]
          rw [ih _ (Nat.lt_succ_self _) (.inr anew) rfl]
        | some lead =>
          obtain ⟨least_ge, greatest_le⟩ := lead?_bounds led
          simp only [led] at border
          have whole : (follow lead.following lead.least lead.greatest lead.bits front).1 ≠ none ∨
              StartsAnew back := border.imp_left (by
            intro wellFormed broken
            simp [broken] at wellFormed)
          have shorter := follow_length_le lead.following lead.least lead.greatest lead.bits front
          simp only [follow_append least_ge greatest_le whole]
          rw [ih _ (Nat.lt_succ_of_le shorter) (border.imp_left (by simp [WellFormed])) rfl,
            List.cons_append]

theorem WellFormed.append {front back : Bytes} (front_ok : WellFormed front)
    (back_ok : WellFormed back) : WellFormed (front ++ back) := by
  unfold WellFormed
  rw [pieces_append (.inl front_ok), List.mem_append]
  exact fun broken => broken.elim front_ok back_ok

theorem WellFormed.split {front back : Bytes} (both : WellFormed (front ++ back))
    (anew : StartsAnew back) : WellFormed front ∧ WellFormed back := by
  unfold WellFormed at both ⊢
  rw [pieces_append (.inr anew), List.mem_append, not_or] at both
  exact both

@[simp]
theorem wellFormed_nil : WellFormed [] := by simp [WellFormed, pieces]

theorem wellFormed_cons {byte : UInt8} (plain : byte < 0x80) {bytes : Bytes} :
    WellFormed (byte :: bytes) ↔ WellFormed bytes := by
  simp [WellFormed, pieces, plain]

theorem wellFormed_of_plain {bytes : Bytes} (plain : ∀ byte ∈ bytes, byte < 0x80) :
    WellFormed bytes := by
  induction bytes with
  | nil => exact wellFormed_nil
  | cons byte bytes ih =>
    rw [wellFormed_cons (plain byte List.mem_cons_self)]
    exact ih fun other member => plain other (List.mem_cons_of_mem _ member)

/-! ## Characters -/

/-- One byte of a character that follows its first. -/
theorem follow_succ {count number bits : Nat} {least greatest : UInt8} {rest : Bytes}
    (small : number < 256) (least_le : least.toNat ≤ number)
    (le_greatest : number ≤ greatest.toNat) :
    follow (count + 1) least greatest bits (UInt8.ofNat number :: rest) =
      follow count 0x80 0xBF (bits * 64 + number % 64) rest := by
  have inside : least ≤ UInt8.ofNat number ∧ UInt8.ofNat number ≤ greatest := by
    rw [UInt8.le_iff_toNat_le, UInt8.le_iff_toNat_le, UInt8.toNat_ofNat', Nat.mod_eq_of_lt small]
    exact ⟨least_le, le_greatest⟩
  rw [follow, if_pos inside, UInt8.toNat_ofNat', Nat.mod_eq_of_lt small]

/-- What the first byte of a character promises, by its number. -/
theorem lead?_ofNat {number : Nat} (small : number < 256) :
    lead? (UInt8.ofNat number) =
      if 0xC2 ≤ number ∧ number ≤ 0xDF then some ⟨number % 32, 1, 0x80, 0xBF⟩
      else if number = 0xE0 then some ⟨0, 2, 0xA0, 0xBF⟩
      else if number = 0xED then some ⟨13, 2, 0x80, 0x9F⟩
      else if 0xE1 ≤ number ∧ number ≤ 0xEF then some ⟨number % 16, 2, 0x80, 0xBF⟩
      else if number = 0xF0 then some ⟨0, 3, 0x90, 0xBF⟩
      else if 0xF1 ≤ number ∧ number ≤ 0xF3 then some ⟨number % 8, 3, 0x80, 0xBF⟩
      else if number = 0xF4 then some ⟨4, 3, 0x80, 0x8F⟩
      else none := by
  have toNat_eq : (UInt8.ofNat number).toNat = number := by
    rw [UInt8.toNat_ofNat', Nat.mod_eq_of_lt small]
  simp only [lead?, UInt8.le_iff_toNat_le, ← UInt8.toNat_inj, toNat_eq]
  rfl

/-- A byte that starts no character is a piece of its own. -/
theorem pieces_stray {byte : UInt8} (long : ¬byte < 0x80) (stray : lead? byte = none)
    (rest : Bytes) : pieces (byte :: rest) = none :: pieces rest := by
  rw [pieces, if_neg long, stray]

theorem pieces_led {byte : UInt8} {lead : Lead} (long : ¬byte < 0x80)
    (led : lead? byte = some lead) (rest : Bytes) :
    pieces (byte :: rest) =
      (follow lead.following lead.least lead.greatest lead.bits rest).1.map Char.ofNat ::
        pieces (follow lead.following lead.least lead.greatest lead.bits rest).2 := by
  rw [pieces, if_neg long, led]

theorem pieces_lead {number : Nat} {lead : Lead} {rest : Bytes} (small : number < 256)
    (high : 0x80 ≤ number) (led : lead? (UInt8.ofNat number) = some lead) :
    pieces (UInt8.ofNat number :: rest) =
      (follow lead.following lead.least lead.greatest lead.bits rest).1.map Char.ofNat ::
        pieces (follow lead.following lead.least lead.greatest lead.bits rest).2 := by
  have long : ¬UInt8.ofNat number < 0x80 := by
    rw [UInt8.lt_iff_toNat_lt, UInt8.toNat_ofNat', Nat.mod_eq_of_lt small]
    exact Nat.not_lt.2 high
  exact pieces_led long led rest

theorem lead_two {number : Nat} (low : ¬number ≤ 0x7F) (high : number ≤ 0x7FF) :
    lead? (UInt8.ofNat (number / 64 % 32 + 0xC0)) = some ⟨number / 64, 1, 0x80, 0xBF⟩ := by
  rw [lead?_ofNat (by omega), if_pos (by omega)]
  congr 2
  omega

theorem lead_three {number : Nat} (low : ¬number ≤ 0x7FF) (high : number ≤ 0xFFFF)
    (scalar : number < 0xD800 ∨ 0xDFFF < number) :
    ∃ least greatest, lead? (UInt8.ofNat (number / 4096 % 16 + 0xE0)) =
        some ⟨number / 4096, 2, least, greatest⟩ ∧
      least.toNat ≤ number / 64 % 64 + 0x80 ∧ number / 64 % 64 + 0x80 ≤ greatest.toNat := by
  rw [lead?_ofNat (by omega), if_neg (by omega)]
  by_cases least : number / 4096 = 0
  · rw [if_pos (by omega), least]
    exact ⟨_, _, rfl, show 0xA0 ≤ _ by omega, show _ ≤ 0xBF by omega⟩
  · rw [if_neg (by omega)]
    by_cases surrogate : number / 4096 = 13
    · rw [if_pos (by omega), surrogate]
      exact ⟨_, _, rfl, show 0x80 ≤ _ by omega, show _ ≤ 0x9F by omega⟩
    · rw [if_neg (by omega), if_pos (by omega)]
      refine ⟨0x80, 0xBF, ?_, show 0x80 ≤ _ by omega, show _ ≤ 0xBF by omega⟩
      congr 2
      omega

theorem lead_four {number : Nat} (low : ¬number ≤ 0xFFFF) (high : number < 0x110000) :
    ∃ least greatest, lead? (UInt8.ofNat (number / 262144 % 8 + 0xF0)) =
        some ⟨number / 262144, 3, least, greatest⟩ ∧
      least.toNat ≤ number / 4096 % 64 + 0x80 ∧ number / 4096 % 64 + 0x80 ≤ greatest.toNat := by
  rw [lead?_ofNat (by omega), if_neg (by omega), if_neg (by omega), if_neg (by omega),
    if_neg (by omega)]
  by_cases least : number / 262144 = 0
  · rw [if_pos (by omega), least]
    exact ⟨_, _, rfl, show 0x90 ≤ _ by omega, show _ ≤ 0xBF by omega⟩
  · rw [if_neg (by omega)]
    by_cases greatest : number / 262144 = 4
    · rw [if_neg (by omega), if_pos (by omega), greatest]
      exact ⟨_, _, rfl, show 0x80 ≤ _ by omega, show _ ≤ 0x8F by omega⟩
    · rw [if_pos (by omega)]
      refine ⟨0x80, 0xBF, ?_, show 0x80 ≤ _ by omega, show _ ≤ 0xBF by omega⟩
      congr 2
      omega

theorem pieces_encodeChar_append (char : Char) (rest : Bytes) :
    pieces (String.utf8EncodeChar char ++ rest) = some char :: pieces rest := by
  have char_eq : Char.ofNat char.val.toNat = char := char.ofNat_toNat
  have valid := char.valid
  simp only [UInt32.isValidChar, Nat.isValidChar] at valid
  fun_cases String.utf8EncodeChar char with
  | case1 number one =>
    have plain : UInt8.ofNat number < 0x80 := by
      rw [UInt8.lt_iff_toNat_lt, UInt8.toNat_ofNat', Nat.mod_eq_of_lt (by omega)]
      exact Nat.lt_succ_of_le one
    rw [List.cons_append, pieces, if_pos plain, UInt8.toNat_ofNat', Nat.mod_eq_of_lt (by omega),
      char_eq]
    rfl
  | case2 number low two =>
    have number_eq : number / 64 * 64 + (number % 64 + 0x80) % 64 = char.val.toNat := by omega
    rw [List.cons_append, pieces_lead (by omega) (by omega) (lead_two low two)]
    simp only [List.cons_append]
    rw [follow_succ (by omega) (show 0x80 ≤ _ by omega) (show _ ≤ 0xBF by omega), follow]
    simp only [number_eq, Option.map_some, char_eq, List.nil_append]
  | case3 number _ low three =>
    obtain ⟨least, greatest, led, least_le, le_greatest⟩ := lead_three low three (by omega)
    have number_eq : (number / 4096 * 64 + (number / 64 % 64 + 0x80) % 64) * 64 +
        (number % 64 + 0x80) % 64 = char.val.toNat := by omega
    rw [List.cons_append, pieces_lead (by omega) (by omega) led]
    simp only [List.cons_append]
    rw [follow_succ (by omega) least_le le_greatest,
      follow_succ (by omega) (show 0x80 ≤ _ by omega) (show _ ≤ 0xBF by omega), follow]
    simp only [number_eq, Option.map_some, char_eq, List.nil_append]
  | case4 number _ _ low =>
    obtain ⟨least, greatest, led, least_le, le_greatest⟩ := lead_four low (by omega)
    have number_eq : ((number / 262144 * 64 + (number / 4096 % 64 + 0x80) % 64) * 64 +
        (number / 64 % 64 + 0x80) % 64) * 64 + (number % 64 + 0x80) % 64 = char.val.toNat := by
      omega
    rw [List.cons_append, pieces_lead (by omega) (by omega) led]
    simp only [List.cons_append]
    rw [follow_succ (by omega) least_le le_greatest,
      follow_succ (by omega) (show 0x80 ≤ _ by omega) (show _ ≤ 0xBF by omega),
      follow_succ (by omega) (show 0x80 ≤ _ by omega) (show _ ≤ 0xBF by omega), follow]
    simp only [number_eq, Option.map_some, char_eq, List.nil_append]

theorem startsAnew_encodeChar (char : Char) (rest : Bytes) :
    StartsAnew (String.utf8EncodeChar char ++ rest) := by
  have valid := char.valid
  simp only [UInt32.isValidChar, Nat.isValidChar] at valid
  have anew : ∀ {number : Nat} {bytes : Bytes}, number < 256 →
      (number < 0x80 ∨ 0xC0 ≤ number) → StartsAnew (UInt8.ofNat number :: bytes) := by
    intro number bytes small outside byte byte_eq continues
    cases byte_eq
    have above := UInt8.le_iff_toNat_le.1 continues.1
    have below := UInt8.le_iff_toNat_le.1 continues.2
    rw [UInt8.toNat_ofNat', Nat.mod_eq_of_lt small] at above below
    exact outside.elim (Nat.not_lt.2 above) fun high => absurd (Nat.le_trans high below) (by decide)
  fun_cases String.utf8EncodeChar char with
  | case1 number one => exact anew (by omega) (.inl (by omega))
  | case2 number _ two => exact anew (by omega) (.inr (by omega))
  | case3 number _ _ three => exact anew (by omega) (.inr (by omega))
  | case4 number _ _ _ => exact anew (by omega) (.inr (by omega))

theorem wellFormed_encodeChar_append {char : Char} {rest : Bytes} :
    WellFormed (String.utf8EncodeChar char ++ rest) ↔ WellFormed rest := by
  simp [WellFormed, pieces_encodeChar_append]

theorem pieces_encode (text : List Char) : pieces (encode text) = text.map some := by
  induction text with
  | nil => simp [encode, pieces]
  | cons char text ih =>
    rw [encode, List.flatMap_cons, pieces_encodeChar_append, List.map_cons, ← ih, encode]

theorem encode_append (front back : List Char) :
    encode (front ++ back) = encode front ++ encode back := by
  rw [encode, List.flatMap_append, encode, encode]

/-- A character of ASCII is one byte. -/
theorem encodeChar_ascii {char : Char} (ascii : char.toNat < 0x80) :
    String.utf8EncodeChar char = [UInt8.ofNat char.toNat] := by
  have small : char.val.toNat ≤ 0x7F := Nat.le_of_lt_succ ascii
  simp only [String.utf8EncodeChar, if_pos small]
  rfl

/-- No byte of another character is one of ASCII. -/
theorem above_of_mem_encodeChar {char : Char} (beyond : ¬char.toNat < 0x80) {byte : UInt8}
    (member : byte ∈ String.utf8EncodeChar char) : 0x80 ≤ byte.toNat := by
  revert member
  fun_cases String.utf8EncodeChar char with
  | case1 number one => exact absurd (Nat.lt_succ_of_le one) beyond
  | case2 number _ two =>
    simp only [List.mem_cons, List.not_mem_nil, or_false]
    rintro (rfl | rfl) <;> rw [UInt8.toNat_ofNat'] <;> omega
  | case3 number _ _ three =>
    simp only [List.mem_cons, List.not_mem_nil, or_false]
    rintro (rfl | rfl | rfl) <;> rw [UInt8.toNat_ofNat'] <;> omega
  | case4 number _ _ _ =>
    simp only [List.mem_cons, List.not_mem_nil, or_false]
    rintro (rfl | rfl | rfl | rfl) <;> rw [UInt8.toNat_ofNat'] <;> omega

/-- A text in ASCII has one byte for each character. -/
theorem encode_ascii {text : List Char} (ascii : ∀ char ∈ text, char.toNat < 0x80) :
    encode text = text.map fun char => UInt8.ofNat char.toNat := by
  induction text with
  | nil => rfl
  | cons char text ih =>
    have first := encodeChar_ascii (ascii char List.mem_cons_self)
    have later := ih fun other member => ascii other (List.mem_cons_of_mem _ member)
    rw [encode, List.flatMap_cons, first, ← encode, later, List.map_cons, List.singleton_append]

theorem decodeLossy_encode (text : List Char) : decodeLossy (encode text) = text := by
  rw [decodeLossy, pieces_encode, List.map_map]
  exact List.map_id text

/-- A text can be read back from its bytes. -/
theorem decode?_encode (text : List Char) : decode? (encode text) = some text := by
  rw [decode?, pieces_encode]
  induction text with
  | nil => rfl
  | cons char text ih => simp [ih]

end SignIn.Utf8
