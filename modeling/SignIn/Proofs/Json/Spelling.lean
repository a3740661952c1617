import SignIn.Proofs.Json.Containers

/-!
# Spellings

One value can be spelled in many ways: blanks may stand between its parts, and each character of a
string may be escaped or not.  A tree is what all spellings of a value have in common.  Every
spelling is JSON, and a string is read as what it spells.
-/

namespace SignIn.Json

/-- A value as a text tells it: numbers with their digits, objects with all of their members. -/
inductive Tree where
  /-- The null value. -/
  | null
  /-- A truth value. -/
  | bool (truth : Bool)
  /-- A number. -/
  | number (digits : Bytes) (digits_ok : IsNumber digits)
  /-- A text. -/
  | string (text : String)
  /-- A list of values. -/
  | array (items : List Tree)
  /-- Named values; a name may be there twice. -/
  | object (members : List (String × Tree))

/-! ## Spelling -/

/-- Four hexadecimal digits spell a number. -/
inductive SpellsUnit : Nat → Bytes → Prop where
  | mk {first second third fourth : UInt8} {a b c d : Nat} (first_eq : hexValue? first = some a)
      (second_eq : hexValue? second = some b) (third_eq : hexValue? third = some c)
      (fourth_eq : hexValue? fourth = some d) :
      SpellsUnit (((a * 16 + b) * 16 + c) * 16 + d) [first, second, third, fourth]

/-- What follows a backslash spells a character: a letter that stands for it, its number, or, if it
lies beyond the first plane, the two numbers of a surrogate pair. -/
inductive SpellsEscape : Char → Bytes → Prop where
  | letter {char : Char} {letter : UInt8} (letter_eq : simpleEscape? letter = some char) :
      SpellsEscape char [letter]
  | unit {char : Char} {code : Bytes} (code_ok : SpellsUnit char.toNat code) :
      SpellsEscape char (0x75 :: code)
  | pair {char : Char} {high low : Nat} {code lowCode : Bytes} (code_ok : SpellsUnit high code)
      (lowCode_ok : SpellsUnit low lowCode) (high_ok : 0xD800 ≤ high ∧ high ≤ 0xDBFF)
      (low_ok : 0xDC00 ≤ low ∧ low ≤ 0xDFFF)
      (char_eq : char.toNat = 0x10000 + (high - 0xD800) * 0x400 + (low - 0xDC00)) :
      SpellsEscape char (0x75 :: (code ++ 0x5C :: 0x75 :: lowCode))

/-- What follows an opening quote, up to and with the closing one, spells a text. -/
inductive SpellsText : List Char → Bytes → Prop where
  | closed : SpellsText [] [0x22]
  | plain {char : Char} {chars : List Char} {rest : Bytes}
      (char_ok : 0x20 ≤ char.toNat ∧ char ≠ '"' ∧ char ≠ '\\') (rest_ok : SpellsText chars rest) :
      SpellsText (char :: chars) (String.utf8EncodeChar char ++ rest)
  | escaped {char : Char} {chars : List Char} {escape rest : Bytes}
      (escape_ok : SpellsEscape char escape) (rest_ok : SpellsText chars rest) :
      SpellsText (char :: chars) (0x5C :: (escape ++ rest))

/-- What a stretch of a JSON text can tell. -/
inductive Content where
  /-- A value, with the blanks before it. -/
  | value (tree : Tree)
  /-- The items that are left of an array, be they all of its items or not. -/
  | items (first : Bool) (items : List Tree)
  /-- The members that are left of an object, be they all of its members or not. -/
  | members (first : Bool) (members : List (String × Tree))

/-- The symbol of the grammar for a content. -/
def Content.symbol : Content → Symbol
  | .value _ => .value
  | .items first _ => contents first .array
  | .members first _ => contents first .object

/-- The bytes by which a content can be told. -/
inductive Spells : Content → Bytes → Prop where
  | null {blank : Bytes} (blank_ok : IsBlank blank) :
      Spells (.value .null) (blank ++ [0x6E, 0x75, 0x6C, 0x6C])
  | isTrue {blank : Bytes} (blank_ok : IsBlank blank) :
      Spells (.value (.bool true)) (blank ++ [0x74, 0x72, 0x75, 0x65])
  | isFalse {blank : Bytes} (blank_ok : IsBlank blank) :
      Spells (.value (.bool false)) (blank ++ [0x66, 0x61, 0x6C, 0x73, 0x65])
  | number {blank digits : Bytes} (digits_ok : IsNumber digits) (blank_ok : IsBlank blank) :
      Spells (.value (.number digits digits_ok)) (blank ++ digits)
  | string {blank spelled : Bytes} {text : String} (blank_ok : IsBlank blank)
      (spelled_ok : SpellsText text.toList spelled) :
      Spells (.value (.string text)) (blank ++ 0x22 :: spelled)
  | array {blank inner : Bytes} {items : List Tree} (blank_ok : IsBlank blank)
      (inner_ok : Spells (.items true items) inner) :
      Spells (.value (.array items)) (blank ++ 0x5B :: inner)
  | object {blank inner : Bytes} {members : List (String × Tree)} (blank_ok : IsBlank blank)
      (inner_ok : Spells (.members true members) inner) :
      Spells (.value (.object members)) (blank ++ 0x7B :: inner)
  | noItems {first : Bool} {blank : Bytes} (blank_ok : IsBlank blank) :
      Spells (.items first []) (blank ++ [0x5D])
  | item {first : Bool} {item : Tree} {items : List Tree} {lead text others : Bytes}
      (lead_ok : Leads first lead) (text_ok : Spells (.value item) text)
      (others_ok : Spells (.items false items) others) :
      Spells (.items first (item :: items)) (lead ++ (text ++ others))
  | noMembers {first : Bool} {blank : Bytes} (blank_ok : IsBlank blank) :
      Spells (.members first []) (blank ++ [0x7D])
  | member {first : Bool} {name : String} {value : Tree} {members : List (String × Tree)}
      {lead spelled gap text others : Bytes} (lead_ok : Leads first lead)
      (name_ok : SpellsText name.toList spelled) (gap_ok : IsBlank gap)
      (text_ok : Spells (.value value) text) (others_ok : Spells (.members false members) others) :
      Spells (.members first ((name, value) :: members))
        (lead ++ 0x22 :: (spelled ++ (gap ++ 0x3A :: (text ++ others))))

/-- The bytes that tell a value and nothing else, with blanks around it. -/
def SpellsDocument (tree : Tree) (bytes : Bytes) : Prop :=
  ∃ text blank, Spells (.value tree) text ∧ IsBlank blank ∧ bytes = text ++ blank

/-! ## Texts -/

/-- The bytes of a character that need not be escaped stand for themselves. -/
theorem isPlain_encodeChar {char : Char}
    (char_ok : 0x20 ≤ char.toNat ∧ char ≠ '"' ∧ char ≠ '\\') :
    IsPlain (String.utf8EncodeChar char) := by
  obtain ⟨visible, not_quote, not_slash⟩ := char_ok
  have quote_ne : char.val.toNat ≠ 0x22 := fun same => not_quote (Char.toNat_inj.1 same)
  have slash_ne : char.val.toNat ≠ 0x5C := fun same => not_slash (Char.toNat_inj.1 same)
  have plain_of {number : Nat} (small : number < 256)
      (number_ok : 0x20 ≤ number ∧ number ≠ 0x22 ∧ number ≠ 0x5C) :
      isPlain (UInt8.ofNat number) = true := by
    have toNat_eq : (UInt8.ofNat number).toNat = number := by
      rw [UInt8.toNat_ofNat', Nat.mod_eq_of_lt small]
    simp only [isPlain, Bool.and_eq_true, decide_eq_true_eq, bne_iff_ne, ne_eq,
      UInt8.le_iff_toNat_le, ← UInt8.toNat_inj, toNat_eq]
    exact ⟨⟨number_ok.1, number_ok.2.1⟩, number_ok.2.2⟩
  have bound := char.valid
  simp only [UInt32.isValidChar, Nat.isValidChar] at bound
  change 0x20 ≤ char.val.toNat at visible
  fun_cases String.utf8EncodeChar char with
  | case1 number one => exact List.forall_mem_singleton.2 (plain_of (by omega) (by omega))
  | case2 number low two =>
    simp only [IsPlain, List.forall_mem_cons]
    exact ⟨plain_of (by omega) (by omega), plain_of (by omega) (by omega),
      List.forall_mem_nil _⟩
  | case3 number _ low three =>
    simp only [IsPlain, List.forall_mem_cons]
    exact ⟨plain_of (by omega) (by omega), plain_of (by omega) (by omega),
      plain_of (by omega) (by omega), List.forall_mem_nil _⟩
  | case4 number _ _ low =>
    simp only [IsPlain, List.forall_mem_cons]
    exact ⟨plain_of (by omega) (by omega), plain_of (by omega) (by omega),
      plain_of (by omega) (by omega), plain_of (by omega) (by omega), List.forall_mem_nil _⟩

theorem SpellsUnit.isHex {unit : Nat} {code : Bytes} (code_ok : SpellsUnit unit code) :
    IsHex code := by
  cases code_ok with
  | mk first_eq second_eq third_eq fourth_eq =>
    refine ⟨rfl, ?_⟩
    simp [first_eq, second_eq, third_eq, fourth_eq]

theorem SpellsUnit.takes {unit : Nat} {code : Bytes} (code_ok : SpellsUnit unit code) :
    Takes hexEscape Anything unit code := by
  cases code_ok with
  | mk first_eq second_eq third_eq fourth_eq =>
    rintro bytes rest - rfl
    simp only [List.cons_append, List.nil_append, hexEscape, first_eq, second_eq, third_eq,
      fourth_eq]
    exact ⟨_, rfl, rfl⟩

theorem SpellsUnit.takes_low {unit : Nat} {code : Bytes} (code_ok : SpellsUnit unit code)
    (low_ok : 0xDC00 ≤ unit ∧ unit ≤ 0xDFFF) :
    Takes lowSurrogate Anything unit (0x5C :: 0x75 :: code) := by
  rintro bytes rest - rfl
  obtain ⟨last, scanned, last_eq⟩ := code_ok.takes (code ++ rest) rest trivial rfl
  simp only [List.cons_append, lowSurrogate, show ascii 0x5C = '\\' from rfl,
    show ascii 0x75 = 'u' from rfl, if_true, scanned, if_pos low_ok]
  exact ⟨_, rfl, last_eq⟩

/-- An escape is read as the character that it spells. -/
theorem SpellsEscape.takes {char : Char} {escape : Bytes}
    (escape_ok : SpellsEscape char escape) : Takes escapeBody Anything char escape := by
  rintro bytes rest - rfl
  have no_letter : simpleEscape? 0x75 = none := rfl
  have is_unit : ascii 0x75 = 'u' := rfl
  cases escape_ok with
  | letter letter_eq =>
    simp only [List.cons_append, List.nil_append, escapeBody, letter_eq]
    exact ⟨_, rfl, rfl⟩
  | @unit code code_ok =>
    have valid := char.valid
    simp only [UInt32.isValidChar, Nat.isValidChar] at valid
    have not_low : ¬(0xDC00 ≤ char.toNat ∧ char.toNat ≤ 0xDFFF) := by
      change ¬(0xDC00 ≤ char.val.toNat ∧ char.val.toNat ≤ 0xDFFF)
      omega
    have not_high : ¬(0xD800 ≤ char.toNat ∧ char.toNat ≤ 0xDBFF) := by
      change ¬(0xD800 ≤ char.val.toNat ∧ char.val.toNat ≤ 0xDBFF)
      omega
    obtain ⟨last, scanned, last_eq⟩ := code_ok.takes (code ++ rest) rest trivial rfl
    simp only [List.cons_append, escapeBody, no_letter, is_unit, if_true, scanned,
      if_neg not_low, if_neg not_high, Char.ofNat_toNat]
    exact ⟨_, rfl, last_eq⟩
  | @pair high low code lowCode code_ok lowCode_ok high_ok low_ok char_eq =>
    have not_low : ¬(0xDC00 ≤ high ∧ high ≤ 0xDFFF) := by omega
    have bytes_eq : code ++ 0x5C :: 0x75 :: lowCode ++ rest =
        code ++ (0x5C :: 0x75 :: lowCode ++ rest) := List.append_assoc _ _ _
    obtain ⟨after, scanned, after_eq⟩ := code_ok.takes _ _ trivial bytes_eq
    obtain ⟨last, lowScanned, last_eq⟩ := lowCode_ok.takes_low low_ok _ rest trivial after_eq
    have char_ok : Char.ofNat (0x10000 + (high - 0xD800) * 0x400 + (low - 0xDC00)) = char := by
      rw [← char_eq, Char.ofNat_toNat]
    rw [List.cons_append]
    simp only [escapeBody, no_letter, is_unit, if_true, scanned, if_neg not_low, if_pos high_ok,
      lowScanned, char_ok]
    exact ⟨_, rfl, last_eq⟩

/-- A text is read as what it spells, behind any bytes that stand for themselves. -/
theorem SpellsText.takes_bytes {chars : List Char} {spelled : Bytes}
    (spelled_ok : SpellsText chars spelled) {plain : Bytes} (plain_ok : IsPlain plain) :
    Takes stringBytes Anything (plain ++ Utf8.encode chars) (plain ++ spelled) := by
  -- Bytes that stand for themselves are scanned in one go up to the next escape.
  induction spelled_ok generalizing plain with
  | closed =>
    rintro bytes rest - rfl
    rw [Utf8.encode, List.flatMap_nil, List.append_nil]
    exact stringBytes_closed plain_ok (List.append_assoc _ _ _)
  | @plain char chars spelled char_ok _ ih =>
    have more_ok : IsPlain (plain ++ String.utf8EncodeChar char) := fun byte member =>
      (List.mem_append.1 member).elim (plain_ok byte) (isPlain_encodeChar char_ok byte)
    have taken := ih more_ok
    rwa [List.append_assoc, List.append_assoc] at taken
  | @escaped char chars escape spelled escape_ok _ ih =>
    rintro bytes rest - rfl
    have bytes_eq : plain ++ 0x5C :: (escape ++ spelled) ++ rest =
        plain ++ 0x5C :: (escape ++ (spelled ++ rest)) := by simp
    have content_eq : plain ++ Utf8.encode (char :: chars) =
        plain ++ String.utf8EncodeChar char ++ Utf8.encode chars :=
      (List.append_assoc _ _ _).symm
    rw [content_eq]
    exact stringBytes_escaped plain_ok bytes_eq escape_ok.takes fun place place_eq =>
      ih (List.forall_mem_nil _) place rest trivial place_eq

theorem SpellsText.takes {text : String} {spelled : Bytes}
    (spelled_ok : SpellsText text.toList spelled) : Takes stringBody Anything text spelled := by
  intro bytes rest _ bytes_eq
  obtain ⟨last, scanned, last_eq⟩ :=
    spelled_ok.takes_bytes (List.forall_mem_nil _) bytes rest trivial bytes_eq
  refine ⟨last, ?_, last_eq⟩
  simp only [stringBody, scanned, List.nil_append, Utf8.decode?_encode, String.ofList_toList]

/-! ## Spellings are JSON -/

theorem SpellsEscape.isEscapes {char : Char} {escape : Bytes}
    (escape_ok : SpellsEscape char escape) : IsEscapes escape := by
  cases escape_ok with
  | letter letter_eq => exact .inl (.simple (by rw [letter_eq]; rfl))
  | unit code_ok => exact .inl (.unicode code_ok.isHex)
  | pair code_ok lowCode_ok =>
    exact .inr ⟨_, _, .unicode code_ok.isHex, .unicode lowCode_ok.isHex, rfl⟩

theorem IsString.pad {plain text : Bytes} (plain_ok : IsPlain plain) (text_ok : IsString text) :
    IsString (plain ++ text) := by
  have both {front : Bytes} (front_ok : IsPlain front) : IsPlain (plain ++ front) :=
    fun byte member => (List.mem_append.1 member).elim (plain_ok byte) (front_ok byte)
  cases text_ok with
  | closed front_ok =>
    rw [← List.append_assoc]
    exact .closed (both front_ok)
  | escaped front_ok escape_ok rest_ok =>
    rw [← List.append_assoc]
    exact .escaped (both front_ok) escape_ok rest_ok

theorem SpellsText.isString {chars : List Char} {spelled : Bytes}
    (spelled_ok : SpellsText chars spelled) : IsString spelled := by
  induction spelled_ok with
  | closed => exact .closed (List.forall_mem_nil _)
  | plain char_ok _ ih => exact ih.pad (isPlain_encodeChar char_ok)
  | escaped escape_ok _ ih => exact escape_ok.isEscapes.string (List.forall_mem_nil _) ih

/-- Whatever tells a content is of the grammar. -/
theorem Spells.derives {content : Content} {text : Bytes} (spelled : Spells content text) :
    Derives IsString content.symbol text := by
  induction spelled with
  | null blank_ok => exact .scalar blank_ok .null
  | isTrue blank_ok => exact .scalar blank_ok .isTrue
  | isFalse blank_ok => exact .scalar blank_ok .isFalse
  | number digits_ok blank_ok => exact .scalar blank_ok (.number digits_ok)
  | string blank_ok spelled_ok => exact .scalar blank_ok (.string spelled_ok.isString)
  | array blank_ok _ ih => exact @Derives.container _ .array _ _ blank_ok ih
  | object blank_ok _ ih => exact @Derives.container _ .object _ _ blank_ok ih
  | @noItems first _ blank_ok => exact derives_ended first blank_ok
  | item lead_ok _ _ text_ih others_ih => exact derives_part lead_ok (.item text_ih) others_ih
  | @noMembers first _ blank_ok => exact derives_ended first blank_ok
  | @member first name value members lead spelled gap text others lead_ok name_ok gap_ok _ _
      text_ih others_ih =>
    have part_ok : Derives IsString (.part .object)
        ([] ++ 0x22 :: (spelled ++ (gap ++ 0x3A :: text))) :=
      .member (List.forall_mem_nil _) name_ok.isString gap_ok text_ih
    have derived := derives_part lead_ok part_ok others_ih
    simpa [Content.symbol] using derived

end SignIn.Json
