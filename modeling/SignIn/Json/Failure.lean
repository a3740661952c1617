/-!
# What can be wrong with JSON

A fault says what kind of problem the first one met was; a failure also says where.
-/

namespace SignIn.Json

/-- The first problem met while reading. -/
inductive Fault where
  /-- The text breaks the grammar or a limit of the reader. -/
  | malformed
  /-- The text ends too early. -/
  | truncated
  /-- The text is in order, but its content is not what was asked for. -/
  | rejected (message : String)
deriving DecidableEq

/-- One step from a value into its parts. -/
inductive Step where
  /-- Into the member of an object. -/
  | member (name : String)
  /-- Into the item of an array. -/
  | element (index : Nat)
  /-- Into a member whose name could not be read. -/
  | unknown
deriving DecidableEq

/-- A problem together with its place. -/
structure Failure where
  /-- The steps from the root to the innermost value that was being read. -/
  path : List Step
  /-- What was wrong. -/
  fault : Fault
deriving DecidableEq

/-- The fault of a value of the wrong kind. -/
def Fault.mismatch (met expected : String) : Fault :=
  .rejected ("invalid type: " ++ met ++ ", expected " ++ expected)

/-- The fault of a required member that is not there. -/
def Fault.missing (name : String) : Fault :=
  .rejected ("missing field `" ++ name ++ "`")

/-- The fault of a member that is there twice. -/
def Fault.duplicate (name : String) : Fault :=
  .rejected ("duplicate field `" ++ name ++ "`")

/-- The fault of a list of the wrong length. -/
def Fault.wrongLength (length : Nat) (expected : String) : Fault :=
  .rejected ("invalid length " ++ toString length ++ ", expected " ++ expected)

/-- A failure at the root. -/
def Failure.here (fault : Fault) : Failure := ⟨[], fault⟩

/-- A failure seen from one step further out. -/
def Failure.inside (step : Step) (failure : Failure) : Failure :=
  { failure with path := step :: failure.path }

/-- The text of a step after the first. -/
def Step.later : Step → String
  | .member name => "." ++ name
  | .element index => "[" ++ toString index ++ "]"
  | .unknown => ".?"

/-- The text of the first step. -/
def Step.first : Step → String
  | .member name => name
  | .element index => "[" ++ toString index ++ "]"
  | .unknown => "?"

/-- The text of a place: a single dot for the root. -/
def Failure.place (failure : Failure) : String :=
  match failure.path with
  | [] => "."
  | step :: steps => step.first ++ String.join (steps.map Step.later)

end SignIn.Json
