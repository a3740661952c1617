import SignIn.Decimal.Shortest
import SignIn.Dictionary
import SignIn.Text.Quoted

/-!
# JSON values

The value type of JSON and its compact text.  Objects list their members in the order in which they
are to be written.
-/

namespace SignIn.Json

/-- A number: an integer of at most 64 bits, or a floating-point number with its sign. -/
inductive Number where
  /-- An integer. -/
  | integer (number : Int)
  /-- A floating-point number; zero has a sign too. -/
  | float (negative : Bool) (magnitude : Binary64)
deriving DecidableEq

/-- A JSON value. -/
inductive Value where
  /-- The null value. -/
  | null
  /-- A truth value. -/
  | bool (truth : Bool)
  /-- A number. -/
  | number (number : Number)
  /-- A text. -/
  | string (text : String)
  /-- A list of values. -/
  | array (items : List Value)
  /-- Named values. -/
  | object (members : List (String × Value))

/-- Floating-point numbers always show a point or an exponent; the exponent form starts at `1e+16`
and `1e-6`. -/
def floatLayout : DecimalLayout := ⟨-5, 15, ['+']⟩

namespace Number

/-- The text of a number. -/
def render : Number → List Char
  | .integer number => (toString number).toList
  | .float negative magnitude =>
    (if negative then ['-'] else []) ++ floatLayout.render magnitude.shortest

end Number

/-- The lower-case hexadecimal digit of a number below sixteen. -/
def hexDigit (number : Nat) : Char := Nat.digitChar (number % 16)

/-- How one character is written inside a JSON text. -/
def escape (char : Char) : List Char :=
  if char = '"' then ['\\', '"']
  else if char = '\\' then ['\\', '\\']
  else if char = '\x08' then ['\\', 'b']
  else if char = '\x0c' then ['\\', 'f']
  else if char = '\n' then ['\\', 'n']
  else if char = '\r' then ['\\', 'r']
  else if char = '\t' then ['\\', 't']
  else if char.toNat < 0x20 then
    ['\\', 'u', '0', '0', hexDigit (char.toNat / 16), hexDigit char.toNat]
  else [char]

/-- A JSON string literal. -/
def renderString (text : String) : List Char :=
  '"' :: (text.toList.flatMap escape ++ ['"'])

namespace Value

mutual

/-- The compact text of a value. -/
def renderChars : Value → List Char
  | .null => ['n', 'u', 'l', 'l']
  | .bool true => ['t', 'r', 'u', 'e']
  | .bool false => ['f', 'a', 'l', 's', 'e']
  | .number numeral => numeral.render
  | .string text => renderString text
  | .array [] => ['[', ']']
  | .array (item :: items) => '[' :: (renderChars item ++ renderItems items)
  | .object [] => ['{', '}']
  | .object ((name, value) :: members) =>
    '{' :: (renderString name ++ ':' :: (renderChars value ++ renderMembers members))

/-- The rest of an array after its first item. -/
def renderItems : List Value → List Char
  | [] => [']']
  | item :: items => ',' :: (renderChars item ++ renderItems items)

/-- The rest of an object after its first member. -/
def renderMembers : List (String × Value) → List Char
  | [] => ['}']
  | (name, value) :: members =>
    ',' :: (renderString name ++ ':' :: (renderChars value ++ renderMembers members))

end

/-- The compact text of a value. -/
def render (value : Value) : String := String.ofList value.renderChars

/-- What kind of value a diagnostic says it met. -/
def describe : Value → String
  | .null => "null"
  | .bool truth => "boolean `" ++ toString truth ++ "`"
  | .number (.integer value) => "integer `" ++ toString value ++ "`"
  | .number (.float negative magnitude) =>
    "floating point `" ++ String.ofList (Number.float negative magnitude).render ++ "`"
  | .string text => "string " ++ Text.quote text
  | .array _ => "sequence"
  | .object _ => "map"

/-- The object of a dictionary, its members in ascending order. -/
def ofDictionary (dictionary : Dictionary String) : Value :=
  .object (dictionary.entries.map fun entry => (entry.1, .string entry.2))

end Value

end SignIn.Json
