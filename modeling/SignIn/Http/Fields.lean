import SignIn.Http.Fault
import SignIn.Text.Letter
import SignIn.Text.Utf8

/-!
# Fields

The named values in the head of a request or a response.  Names are tokens in lower case, values
are bytes without controls.  All values of one name stand together, where the name first appeared.
-/

namespace SignIn.Http

/-- Whether a character may stand in a token. -/
def isTokenChar (char : Char) : Bool :=
  char.isAlphanum ||
    ['!', '#', '$', '%', '&', '\'', '*', '+', '-', '.', '^', '_', '\x60', '|', '~'].contains char

/-- Whether a text is a token. -/
def isToken (text : List Char) : Bool := !text.isEmpty && text.all isTokenChar

/-- The name of a field. -/
structure FieldName where
  /-- The characters of the name. -/
  chars : List Char
  /-- A name is a token in lower case. -/
  token : isToken chars = true ∧ chars.map Char.toLower = chars
deriving DecidableEq

/-- The longest name. -/
def longestName : Nat := 65535

theorem isTokenChar_toLower {char : Char} (token : isTokenChar char = true) :
    isTokenChar char.toLower = true := by
  cases upper : char.isUpper with
  | true =>
    obtain ⟨index, rfl⟩ := Text.eq_ofNat_of_isUpper upper
    revert index
    decide
  | false => rwa [Text.toLower_of_not_isUpper upper]

/-- The name that a text spells in any case. -/
def FieldName.read? (text : List Char) : Option FieldName :=
  if token : isToken text = true ∧ text.length ≤ longestName then
    some ⟨text.map Char.toLower, by
      have parts := token.1
      simp only [isToken, Bool.and_eq_true, List.all_eq_true] at parts
      constructor
      · simp only [isToken, Bool.and_eq_true, List.all_eq_true, List.mem_map]
        refine ⟨by cases text <;> simp_all, ?_⟩
        rintro _ ⟨char, member, rfl⟩
        exact isTokenChar_toLower (parts.2 char member)
      · rw [List.map_map]
        exact List.map_congr_left fun char _ => Text.toLower_toLower char⟩
  else none

/-- Whether a byte may stand in the value of a field. -/
def isFieldByte (byte : UInt8) : Bool := (0x20 ≤ byte && byte != 0x7F) || byte == 0x09

/-- The value of a field. -/
structure FieldValue where
  /-- The bytes of the value. -/
  bytes : Bytes
  /-- A value holds no controls. -/
  plain : bytes.all isFieldByte = true
deriving DecidableEq

/-- The value that bytes make up. -/
def FieldValue.read? (bytes : Bytes) : Option FieldValue :=
  if plain : bytes.all isFieldByte = true then some ⟨bytes, plain⟩ else none

/-- All values of one name. -/
structure Field where
  /-- The name. -/
  name : FieldName
  /-- The values in the order in which they were added. -/
  values : List FieldValue
deriving DecidableEq

/-- The fields of a head, each name once. -/
abbrev Fields := List Field

namespace Fields

/-- Add a value to the field of its name, or a new field at the end. -/
def append (name : FieldName) (value : FieldValue) : Fields → Fields
  | [] => [⟨name, [value]⟩]
  | field :: rest =>
    if field.name = name then { field with values := field.values ++ [value] } :: rest
    else field :: append name value rest

/-- The single values with their names. -/
def pairs (fields : Fields) : List (FieldName × FieldValue) :=
  fields.flatMap fun field => field.values.map fun value => (field.name, value)

/-- The values of a name. -/
def values (fields : Fields) (name : List Char) : List FieldValue :=
  match fields.find? fun field => field.name.chars == name with
  | some field => field.values
  | none => []

/-- Add a named value that is given as text and bytes. -/
def add (fields : Fields) (given : String × Bytes) : Except Fault Fields :=
  match FieldName.read? given.1.toList with
  | none => .error .fieldName
  | some name =>
    match FieldValue.read? given.2 with
    | none => .error .fieldValue
    | some value => .ok (fields.append name value)

/-- The fields of named values in order. -/
def read (given : List (String × Bytes)) : Except Fault Fields :=
  given.foldlM add ([] : Fields)

end Fields

end SignIn.Http
