import SignIn.Json.Scanner

/-!
# Passing over values

A value that nobody asked for is checked against the grammar only: its numbers may be out of range,
its strings need not be Unicode and it may be nested to any depth.
-/

namespace SignIn.Json

/-- A container whose end has not been met. -/
inductive Frame where
  /-- An array. -/
  | array
  /-- An object. -/
  | object
deriving DecidableEq

/-- The character that ends a container. -/
def Frame.close : Frame → Char
  | .array => ']'
  | .object => '}'

/-- Any fault of a number that is passed over is one of grammar. -/
def skipNumber (bytes : Bytes) : Except Fault (Rest bytes) :=
  match numeral bytes with
  | .error _ => .error .malformed
  | .ok (_, last) => .ok last

/-- Pass over a value that has no parts, from its first byte on. -/
def skipScalar (byte : UInt8) (bytes : Bytes) : Except Fault (Upto bytes) :=
  match ascii byte with
  | 'n' => expect ['u', 'l', 'l'] bytes
  | 't' => expect ['r', 'u', 'e'] bytes
  | 'f' => expect ['a', 'l', 's', 'e'] bytes
  | '"' => (skipString bytes).map Rest.upto
  | '-' => (skipNumber bytes).map Rest.upto
  | _ =>
    if isDigit byte then (skipNumber (byte :: bytes)).map Rest.uncons else .error .malformed

/-- Pass over the colon after a member's name. -/
def colon (bytes : Bytes) : Except Fault (Rest bytes) :=
  match next? bytes with
  | none => .error .truncated
  | some (byte, rest) => if ascii byte = ':' then .ok rest else .error .malformed

/-- Pass over a member's name, from its opening quote, and the colon after it. -/
def skipName (bytes : Bytes) : Except Fault (Rest bytes) :=
  match next? bytes with
  | none => .error .truncated
  | some (byte, rest) =>
    if ascii byte = '"' then
      match skipString rest.val with
      | .error fault => .error fault
      | .ok afterName =>
        match colon afterName.val with
        | .error fault => .error fault
        | .ok last => .ok (rest.before (afterName.before last.upto).upto)
    else .error .malformed

/-- Where the next value of a container starts, after its opening or a comma. -/
def nextValue (frame : Frame) (bytes : Bytes) : Except Fault (Upto bytes) :=
  match frame with
  | .array => .ok (.all bytes)
  | .object => (skipName bytes).map Rest.upto

/-- The bytes after the end of a container, if it comes next. -/
def closing? (frame : Frame) (bytes : Bytes) : Option (Rest bytes) :=
  match next? bytes with
  | none => none
  | some (byte, rest) => if ascii byte = frame.close then some rest else none

/-- The container that a byte opens. -/
def opened? (byte : UInt8) : Option Frame :=
  match ascii byte with
  | '[' => some .array
  | '{' => some .object
  | _ => none

mutual

/-- Pass over the value that starts here and over all that is open around it. -/
def skipFrom (frames : List Frame) (bytes : Bytes) : Except Fault (Rest bytes) :=
  match next? bytes with
  | none => .error .truncated
  | some (byte, rest) =>
    match opened? byte with
    | some frame =>
      match closing? frame rest.val with
      | some ended =>
        match skipEnds frames ended.val with
        | .error fault => .error fault
        | .ok last => .ok (rest.before (ended.before last).upto)
      | none =>
        match nextValue frame rest.val with
        | .error fault => .error fault
        | .ok start =>
          match skipFrom (frame :: frames) start.val with
          | .error fault => .error fault
          | .ok last => .ok (rest.before (start.before last).upto)
    | none =>
      match skipScalar byte rest.val with
      | .error fault => .error fault
      | .ok ended =>
        match skipEnds frames ended.val with
        | .error fault => .error fault
        | .ok last => .ok ((rest.before ended).before last)
termination_by bytes.length
decreasing_by
  · exact Nat.lt_trans ended.shorter rest.shorter
  · exact Nat.lt_of_le_of_lt start.within rest.shorter
  · exact Nat.lt_of_le_of_lt ended.within rest.shorter

/-- Pass over what follows a complete value: the ends of the open containers and their further
values. -/
def skipEnds (frames : List Frame) (bytes : Bytes) : Except Fault (Upto bytes) :=
  match frames with
  | [] => .ok (.all bytes)
  | frame :: outer =>
    match next? bytes with
    | none => .error .truncated
    | some (byte, rest) =>
      if ascii byte = frame.close then
        match skipEnds outer rest.val with
        | .error fault => .error fault
        | .ok last => .ok (rest.before last).upto
      else if ascii byte = ',' then
        match nextValue frame rest.val with
        | .error fault => .error fault
        | .ok start =>
          match skipFrom (frame :: outer) start.val with
          | .error fault => .error fault
          | .ok last => .ok (rest.before (start.before last).upto).upto
      else .error .malformed
termination_by bytes.length
decreasing_by
  · exact rest.shorter
  · exact Nat.lt_of_le_of_lt start.within rest.shorter

end

/-- Pass over one value. -/
def skip (bytes : Bytes) : Except Fault (Rest bytes) := skipFrom [] bytes

end SignIn.Json
