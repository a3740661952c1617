import SignIn.Json.Skip
import SignIn.Proofs.Utf8

/-!
# The grammar of JSON

The bytes of which JSON consists, as RFC 8259 has them.  What may stand in a string is a parameter
of the grammar, since a value that is passed over need not be Unicode.
-/

namespace SignIn.Json

/-! ## Values without parts -/

/-- Bytes that may stand between the parts of a JSON text. -/
def IsBlank (bytes : Bytes) : Prop := ∀ byte ∈ bytes, isSpace byte = true

/-- One or more decimal digits. -/
def IsDigits (bytes : Bytes) : Prop := bytes ≠ [] ∧ ∀ byte ∈ bytes, isDigit byte = true

/-- The digits before a point, among which a zero only comes first if it comes alone. -/
def IsWhole (bytes : Bytes) : Prop :=
  IsDigits bytes ∧ (bytes.head? = some 0x30 → bytes.length = 1)

/-- A point and the digits after it, or nothing. -/
inductive IsFraction : Bytes → Prop where
  | absent : IsFraction []
  | present {digits : Bytes} (digits_ok : IsDigits digits) : IsFraction (0x2E :: digits)

/-- An exponent, or nothing. -/
inductive IsExponent : Bytes → Prop where
  | absent : IsExponent []
  | present {letter : UInt8} {sign digits : Bytes} (letter_ok : letter = 0x65 ∨ letter = 0x45)
      (sign_ok : sign = [] ∨ sign = [0x2B] ∨ sign = [0x2D]) (digits_ok : IsDigits digits) :
      IsExponent (letter :: (sign ++ digits))

/-- A number without its sign. -/
inductive IsNumeral : Bytes → Prop where
  | mk {whole fraction exponent : Bytes} (whole_ok : IsWhole whole)
      (fraction_ok : IsFraction fraction) (exponent_ok : IsExponent exponent) :
      IsNumeral (whole ++ (fraction ++ exponent))

/-- A number. -/
inductive IsNumber : Bytes → Prop where
  | unsigned {text : Bytes} (text_ok : IsNumeral text) : IsNumber text
  | negative {text : Bytes} (text_ok : IsNumeral text) : IsNumber (0x2D :: text)

/-- Four hexadecimal digits. -/
def IsHex (bytes : Bytes) : Prop :=
  bytes.length = 4 ∧ ∀ byte ∈ bytes, (hexValue? byte).isSome = true

/-- What follows the backslash of an escape. -/
inductive IsEscape : Bytes → Prop where
  | simple {letter : UInt8} (letter_ok : (simpleEscape? letter).isSome = true) : IsEscape [letter]
  | unicode {code : Bytes} (code_ok : IsHex code) : IsEscape (0x75 :: code)

/-- Bytes that stand for themselves inside a string. -/
def IsPlain (bytes : Bytes) : Prop := ∀ byte ∈ bytes, isPlain byte = true

/-- What follows the opening quote of a string, up to and with the closing one. -/
inductive IsString : Bytes → Prop where
  | closed {plain : Bytes} (plain_ok : IsPlain plain) : IsString (plain ++ [0x22])
  | escaped {plain escape rest : Bytes} (plain_ok : IsPlain plain) (escape_ok : IsEscape escape)
      (rest_ok : IsString rest) : IsString (plain ++ 0x5C :: (escape ++ rest))

/-- A string that is Unicode. -/
def IsText (bytes : Bytes) : Prop := IsString bytes ∧ Utf8.WellFormed bytes

/-- A value without parts. -/
inductive IsScalar (Str : Bytes → Prop) : Bytes → Prop where
  | null : IsScalar Str [0x6E, 0x75, 0x6C, 0x6C]
  | isTrue : IsScalar Str [0x74, 0x72, 0x75, 0x65]
  | isFalse : IsScalar Str [0x66, 0x61, 0x6C, 0x73, 0x65]
  | number {text : Bytes} (text_ok : IsNumber text) : IsScalar Str text
  | string {text : Bytes} (text_ok : Str text) : IsScalar Str (0x22 :: text)

/-! ## Containers -/

/-- The byte that opens a container. -/
def Frame.opening : Frame → UInt8
  | .array => 0x5B
  | .object => 0x7B

/-- The byte that ends a container. -/
def Frame.closing : Frame → UInt8
  | .array => 0x5D
  | .object => 0x7D

/-- What a stretch of a JSON text can be. -/
inductive Symbol where
  /-- A value and the blanks before it. -/
  | value
  /-- The inside of a container, up to and with its end. -/
  | inside (frame : Frame)
  /-- An item of an array or a member of an object. -/
  | part (frame : Frame)
  /-- What follows a part of a container, up to and with the container's end. -/
  | rest (frame : Frame)

/-- The bytes that a symbol stands for, if strings are as given. -/
inductive Derives (Str : Bytes → Prop) : Symbol → Bytes → Prop where
  | scalar {blank text : Bytes} (blank_ok : IsBlank blank) (text_ok : IsScalar Str text) :
      Derives Str .value (blank ++ text)
  | container {frame : Frame} {blank inner : Bytes} (blank_ok : IsBlank blank)
      (inner_ok : Derives Str (.inside frame) inner) :
      Derives Str .value (blank ++ frame.opening :: inner)
  | nothing {frame : Frame} {blank : Bytes} (blank_ok : IsBlank blank) :
      Derives Str (.inside frame) (blank ++ [frame.closing])
  | parts {frame : Frame} {first others : Bytes} (first_ok : Derives Str (.part frame) first)
      (others_ok : Derives Str (.rest frame) others) :
      Derives Str (.inside frame) (first ++ others)
  | item {text : Bytes} (text_ok : Derives Str .value text) : Derives Str (.part .array) text
  | member {blank name gap text : Bytes} (blank_ok : IsBlank blank) (name_ok : Str name)
      (gap_ok : IsBlank gap) (text_ok : Derives Str .value text) :
      Derives Str (.part .object) (blank ++ 0x22 :: (name ++ (gap ++ 0x3A :: text)))
  | ended {frame : Frame} {blank : Bytes} (blank_ok : IsBlank blank) :
      Derives Str (.rest frame) (blank ++ [frame.closing])
  | further {frame : Frame} {blank next others : Bytes} (blank_ok : IsBlank blank)
      (next_ok : Derives Str (.part frame) next) (others_ok : Derives Str (.rest frame) others) :
      Derives Str (.rest frame) (blank ++ 0x2C :: (next ++ others))

/-- One well-formed JSON text with nothing but blanks around it. -/
def IsDocument (bytes : Bytes) : Prop :=
  ∃ text blank, Derives IsText .value text ∧ IsBlank blank ∧ bytes = text ++ blank

/-! ## Strings and blanks -/

theorem IsScalar.mono {Str Other : Bytes → Prop} (weaker : ∀ text, Str text → Other text)
    {text : Bytes} (text_ok : IsScalar Str text) : IsScalar Other text := by
  cases text_ok with
  | null => exact .null
  | isTrue => exact .isTrue
  | isFalse => exact .isFalse
  | number text_ok => exact .number text_ok
  | string text_ok => exact .string (weaker _ text_ok)

/-- The less is asked of strings, the more is JSON. -/
theorem Derives.mono {Str Other : Bytes → Prop} (weaker : ∀ text, Str text → Other text)
    {symbol : Symbol} {text : Bytes} (derived : Derives Str symbol text) :
    Derives Other symbol text := by
  induction derived with
  | scalar blank_ok text_ok => exact .scalar blank_ok (text_ok.mono weaker)
  | container blank_ok _ ih => exact .container blank_ok ih
  | nothing blank_ok => exact .nothing blank_ok
  | parts _ _ first_ih others_ih => exact .parts first_ih others_ih
  | item _ ih => exact .item ih
  | member blank_ok name_ok gap_ok _ ih => exact .member blank_ok (weaker _ name_ok) gap_ok ih
  | ended blank_ok => exact .ended blank_ok
  | further blank_ok _ _ next_ih others_ih => exact .further blank_ok next_ih others_ih

theorem IsBlank.append {front back : Bytes} (front_ok : IsBlank front) (back_ok : IsBlank back) :
    IsBlank (front ++ back) := by
  intro byte member
  exact (List.mem_append.1 member).elim (front_ok byte) (back_ok byte)

/-- There may always be more blanks before a value. -/
theorem Derives.pad {Str : Bytes → Prop} {text blank : Bytes} (blank_ok : IsBlank blank)
    (derived : Derives Str .value text) : Derives Str .value (blank ++ text) := by
  cases derived with
  | scalar first_ok text_ok =>
    rw [← List.append_assoc]
    exact .scalar (blank_ok.append first_ok) text_ok
  | container first_ok inner_ok =>
    rw [← List.append_assoc]
    exact .container (blank_ok.append first_ok) inner_ok

end SignIn.Json
