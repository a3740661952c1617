import SignIn.Dictionary
import SignIn.Error
import SignIn.Message
import SignIn.Text.Blank
import SignIn.Text.LowerCase

/-!
# Headers

The headers of a message by name.  Names are compared in lower case, and the values of a name stand
in the order of their lines.
-/

namespace SignIn

/-- The headers of a message: names in lower case, each with its values. -/
structure Headers where
  /-- The values by name. -/
  values : Dictionary (List String)
deriving DecidableEq

namespace Headers

/-- The name and the value that a header line gives. -/
def readLine? (line : String) : Option (String × String) :=
  (Text.splitOnce? ':' line.toList).map fun (name, value) =>
    (String.ofList (Text.toLower (Text.trim name)), String.ofList (Text.trim value))

/-- Add a value behind those that a name has already. -/
def add (headers : Headers) (name value : String) : Headers :=
  ⟨headers.values.alter name fun before => before.getD [] ++ [value]⟩

/-- Add the header of a line. -/
def addLine (headers : Headers) (line : String) : Except Error Headers :=
  match readLine? line with
  | some (name, value) => .ok (headers.add name value)
  | none => .error (.malformedMessage ("invalid header: " ++ line))

/-- No headers. -/
def empty : Headers := ⟨.empty⟩

/-- The headers of a head.  Its first line is not looked at. -/
def ofHead : List String → Except Error Headers
  | [] => .error (.malformedMessage "head must contain at least one line")
  | _ :: lines => lines.foldlM addLine empty

/-- The values of a name. -/
def get (headers : Headers) (name : String) : List String :=
  (headers.values.get? (Text.lowerCase name)).getD []

/-- Whether a name has values. -/
def contains (headers : Headers) (name : String) : Bool :=
  headers.values.contains (Text.lowerCase name)

/-- The names in lower case, sorted. -/
def names (headers : Headers) : List String := headers.values.keys

/-- The number of names. -/
def size (headers : Headers) : Nat := headers.values.size

/-- The value of a name at an index, or what there is instead. -/
def valueAt (headers : Headers) (name : String) (index : Nat) : Except Error String :=
  let values := headers.get name
  match values[index]? with
  | some value => .ok value
  | none =>
    .error (.lookUp (if values.isEmpty then .absent name headers.size headers.names
      else .exhausted name values.length))

/-- The first value of a name, which must be there. -/
def single (headers : Headers) (name : String) : Except Error String :=
  match (headers.get name).head? with
  | some value => .ok value
  | none => .error (.missingHeader name headers.names)

/-- The first value of a name, or else a default. -/
def singleOr (headers : Headers) (name default : String) : String :=
  ((headers.get name).head?).getD default

end Headers

namespace Message

/-- The headers of a message. -/
def headers (message : Message) : Except Error Headers := Headers.ofHead message.head

/-- The values of a header. -/
def header (message : Message) (name : String) : Except Error (List String) :=
  message.headers.map (·.get name)

/-- The first value of a header, which must be there. -/
def single (message : Message) (name : String) : Except Error String := do
  (← message.headers).single name

/-- The first value of a header, or else a default. -/
def singleOr (message : Message) (name default : String) : Except Error String :=
  message.headers.map (·.singleOr name default)

end Message

end SignIn
