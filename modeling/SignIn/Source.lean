import SignIn.Header

/-!
# Sources of headers

A message can be handed on by reference or in a box, and it can be wrapped into something that looks
up its headers.  Wrappers can be put around each other in any way; every look-up asks the innermost
message for its head and reads it anew.
-/

namespace SignIn

mutual

/-- A message, or something that hands one on. -/
inductive Carrier where
  /-- A message. -/
  | plain (message : Message)
  /-- Something handed on by reference. -/
  | reference (carrier : Carrier)
  /-- Something handed on in a box. -/
  | boxed (carrier : Carrier)
  /-- Something that looks up the headers of what it hands on. -/
  | source (source : Source)

/-- Something that looks up the headers of a message. -/
inductive Source where
  /-- Looks up all values of a header. -/
  | index (carrier : Carrier)
  /-- Looks up single values as well. -/
  | facade (origin : Source)

end

/-! ## What is handed on -/

mutual

/-- The lines of a head, asked of what is wrapped. -/
def Carrier.head : Carrier → List String
  | .plain message => message.head
  | .reference carrier => carrier.head
  | .boxed carrier => carrier.head
  | .source source => source.head

/-- The lines of a head, asked of what is wrapped. -/
def Source.head : Source → List String
  | .index carrier => carrier.head
  | .facade origin => origin.head

end

mutual

/-- The body, asked of what is wrapped. -/
def Carrier.body : Carrier → Bytes
  | .plain message => message.body
  | .reference carrier => carrier.body
  | .boxed carrier => carrier.body
  | .source source => source.body

/-- The body, asked of what is wrapped. -/
def Source.body : Source → Bytes
  | .index carrier => carrier.body
  | .facade origin => origin.body

end

/-! ## Look-ups -/

/-- The values that were found for a name, with all headers among which they were looked for. -/
structure FoundValues where
  /-- The name as it was asked for. -/
  name : String
  /-- The headers. -/
  headers : Headers
deriving DecidableEq

namespace FoundValues

/-- The values in the order of their lines. -/
def values (found : FoundValues) : List String := found.headers.get found.name

/-- The first value, if there is one. -/
def first? (found : FoundValues) : Option String := found.values.head?

/-- The value at an index, or what there is instead. -/
def get (found : FoundValues) (index : Nat) : Except Error String :=
  found.headers.valueAt found.name index

end FoundValues

namespace Source

/-- The values of a header. -/
def header : Source → String → Except Error FoundValues
  | .index carrier, name => (Headers.ofHead carrier.head).map (FoundValues.mk name)
  | .facade origin, name => origin.header name

/-- The names of all headers, sorted. -/
def names : Source → Except Error (List String)
  | .index carrier => (Headers.ofHead carrier.head).map Headers.names
  | .facade origin => origin.names

/-- The first value of a header, which must be there.  The names are looked up only to say what
there is instead. -/
def single (origin : Source) (name : String) : Except Error String := do
  match (← origin.header name).first? with
  | some value => return value
  | none => throw (.missingHeader name (← origin.names))

/-- The first value of a header, or else a default. -/
def singleOr (origin : Source) (name default : String) : Except Error String := do
  return (← origin.header name).first?.getD default

end Source

end SignIn
