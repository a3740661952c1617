import SignIn.Json.Skip

/-!
# Reading JSON

A reader takes one value from the bytes at a given place and leaves the bytes after it.  Reading
stops at the first problem, and a failure names the place of the value that was being read.

`value` reads any value up to a depth; `text`, `texts` and `Record.read` read values of one kind.
`document` asks in addition that nothing but blanks follows.
-/

namespace SignIn.Json

/-- Reads a part of a JSON text from a given place on. -/
def Reader (α : Type) := (bytes : Bytes) → Except Failure (α × Rest bytes)

namespace Reader

variable {α β : Type}

/-- A reader that a fault of grammar awaits wherever it starts. -/
def failing (fault : Fault) : Reader α := fun _ => .error (.here fault)

/-- Change what a reader has read, unless there is something wrong with it. -/
def refine (reader : Reader α) (change : α → Except Fault β) : Reader β := fun bytes =>
  match reader bytes with
  | .error failure => .error failure
  | .ok (content, rest) =>
    match change content with
    | .error fault => .error (.here fault)
    | .ok changed => .ok (changed, rest)

/-- Change what a reader has read. -/
def map (reader : Reader α) (change : α → β) : Reader β :=
  reader.refine fun content => .ok (change content)

/-- Read one step further in. -/
def inside (step : Step) (reader : Reader α) : Reader α := fun bytes =>
  (reader bytes).mapError (Failure.inside step)

/-- A scan as a reader. -/
def ofScan (scan : Scan α) : Reader α := fun bytes => (scan bytes).mapError Failure.here

end Reader

variable {α δ : Type}

/-- Passing over a value, as a reader. -/
def skipped : Reader Unit := Reader.ofScan fun bytes => (skip bytes).map fun rest => ((), rest)

/-! ## Items and members -/

/-- What a container holds at a given place. -/
inductive Upcoming (bytes : Bytes) where
  /-- Its end, and the bytes after it. -/
  | closing (rest : Rest bytes)
  /-- A further part: its first byte, and the bytes after that. -/
  | part (first : UInt8) (rest : Rest bytes)

/-- What follows a comma inside a container: the next part, since a comma stands only between
parts. -/
def afterComma (frame : Frame) {bytes : Bytes} (comma : Rest bytes) :
    Except Fault (Upcoming bytes) :=
  match next? comma.val with
  | none => .error .truncated
  | some (byte, rest) =>
    if ascii byte = frame.close then .error .malformed
    else .ok (.part byte (comma.before rest.upto))

/-- What follows the opening of a container, or else one of its parts. -/
def upcoming (frame : Frame) (first : Bool) (bytes : Bytes) : Except Fault (Upcoming bytes) :=
  match next? bytes with
  | none => .error .truncated
  | some (byte, rest) =>
    if ascii byte = frame.close then .ok (.closing rest)
    else if first then .ok (.part byte rest)
    else if ascii byte = ',' then afterComma frame rest
    else .error .malformed

/-- The items of an array from the given one on, up to and with the closing bracket. -/
def items (item : Reader α) (index : Nat) (bytes : Bytes) :
    Except Failure (List α × Rest bytes) :=
  match upcoming .array (index == 0) bytes with
  | .error fault => .error (.here fault)
  | .ok (.closing rest) => .ok ([], rest)
  | .ok (.part byte rest) =>
    match item.inside (.element index) (byte :: rest.val) with
    | .error failure => .error failure
    | .ok (content, after) =>
      match items item (index + 1) after.val with
      | .error failure => .error failure
      | .ok (contents, last) =>
        .ok (content :: contents, rest.before (after.uncons.before last).upto)
termination_by bytes.length
decreasing_by exact Nat.lt_of_le_of_lt after.uncons.within rest.shorter

/-- A member's name, from its first byte on. -/
def memberName (byte : UInt8) (bytes : Bytes) : Except Fault (String × Rest bytes) :=
  if ascii byte = '"' then stringBody bytes else .error .malformed

/-- The members of an object up to and with the closing brace.  What has been gathered so far
decides how the next member is read. -/
def members (take : δ → String → Except Fault (Reader δ)) (first : Bool) (gathered : δ)
    (bytes : Bytes) : Except Failure (δ × Rest bytes) :=
  match upcoming .object first bytes with
  | .error fault => .error ⟨[.unknown], fault⟩
  | .ok (.closing rest) => .ok (gathered, rest)
  | .ok (.part byte rest) =>
    match memberName byte rest.val with
    | .error fault => .error ⟨[.unknown], fault⟩
    | .ok (name, afterName) =>
      match take gathered name with
      | .error fault => .error (.here fault)
      | .ok reader =>
        match colon afterName.val with
        | .error fault => .error (.here fault)
        | .ok afterColon =>
          match reader.inside (.member name) afterColon.val with
          | .error failure => .error failure
          | .ok (more, after) =>
            match members take false more after.val with
            | .error failure => .error failure
            | .ok (all, last) =>
              .ok (all, rest.before
                (afterName.before (afterColon.before (after.before last.upto).upto).upto).upto)
termination_by bytes.length
decreasing_by
  exact Nat.lt_trans after.shorter
    (Nat.lt_trans afterColon.shorter (Nat.lt_trans afterName.shorter rest.shorter))

/-! ## Values by form -/

/-- The value of a keyword whose first letter has been consumed. -/
def keyword (letters : List Char) (meaning : Value) (bytes : Bytes) :
    Except Fault (Value × Upto bytes) :=
  (expect letters bytes).map fun last => (meaning, last)

/-- A value without parts, from its first byte on. -/
def scalar (byte : UInt8) (bytes : Bytes) : Except Fault (Value × Upto bytes) :=
  match ascii byte with
  | 'n' => keyword ['u', 'l', 'l'] .null bytes
  | 't' => keyword ['r', 'u', 'e'] (.bool true) bytes
  | 'f' => keyword ['a', 'l', 's', 'e'] (.bool false) bytes
  | '"' => (stringBody bytes).map fun (content, last) => (.string content, last.upto)
  | '-' => (number true bytes).map fun (content, last) => (.number content, last.upto)
  | _ =>
    if isDigit byte then
      (number false (byte :: bytes)).map fun (content, last) => (.number content, last.uncons)
    else .error .malformed

/-- The forms that a value may have. -/
structure Form (α : Type) where
  /-- What a diagnostic says should have stood there. -/
  expected : String
  /-- What a value without parts means. -/
  scalar : Value → Option α
  /-- How the inside of an array is read. -/
  array : Option (Reader α)
  /-- How the inside of an object is read. -/
  object : Option (Reader α)

namespace Form

/-- How the inside of a container is read. -/
def inner (form : Form α) : Frame → Option (Reader α)
  | .array => form.array
  | .object => form.object

/-- What a diagnostic calls a container. -/
def title : Frame → String
  | .array => "sequence"
  | .object => "map"

/-- Read a value of one of the forms.  A value without parts is read to its end before its form is
judged, a container is judged by its bracket. -/
def read (form : Form α) : Reader α := fun bytes =>
  match next? bytes with
  | none => .error (.here .truncated)
  | some (byte, rest) =>
    match opened? byte with
    | some frame =>
      match form.inner frame with
      | none => .error (.here (.mismatch (title frame) form.expected))
      | some reader =>
        match reader rest.val with
        | .error failure => .error failure
        | .ok (content, last) => .ok (content, rest.before last.upto)
    | none =>
      match Json.scalar byte rest.val with
      | .error fault => .error (.here fault)
      | .ok (value, last) =>
        match form.scalar value with
        | none => .error (.here (.mismatch value.describe form.expected))
        | some content => .ok (content, rest.before last)

end Form

/-- The content of a text value. -/
def Value.text? : Value → Option String
  | .string content => some content
  | _ => none

/-- Read a text. -/
def text : Reader String :=
  Form.read ⟨"a string", Value.text?, none, none⟩

/-- The inside of an object of texts; the last member of a name counts. -/
def textMembers : Reader (Dictionary String) :=
  members (fun gathered name => .ok (text.map (gathered.insert name))) true .empty

/-- Read an object of texts. -/
def texts : Reader (Dictionary String) :=
  Form.read ⟨"a map", fun _ => none, none, some textMembers⟩

/-- The inside of an object of values of one kind; the last member of a name counts. -/
def valueMembers (value : Reader Value) : Reader (Dictionary Value) :=
  members (fun gathered name => .ok (value.map (gathered.insert name))) true .empty

/-- Read any value that is nested at most as deep as given. -/
def value : Nat → Reader Value
  | 0 =>
    Form.read ⟨"any valid JSON value", some, some (.failing .malformed),
      some (.failing .malformed)⟩
  | depth + 1 =>
    Form.read ⟨"any valid JSON value", some,
      some (Reader.map (items (value depth) 0) .array),
      some ((valueMembers (value depth)).map fun entries => .object entries.entries)⟩

/-- How deep containers may be nested. -/
def depthLimit : Nat := 127

/-- Read an object of any values. -/
def object : Reader (Dictionary Value) :=
  Form.read ⟨"a map", fun _ => none, none, some (valueMembers (value (depthLimit - 1)))⟩

/-- Read a value that may be null. -/
def nullable (reader : Reader α) : Reader (Option α) := fun bytes =>
  match next? bytes with
  | none => .error (.here .truncated)
  | some (byte, rest) =>
    if ascii byte = 'n' then
      match expect ['u', 'l', 'l'] rest.val with
      | .error fault => .error (.here fault)
      | .ok last => .ok (none, rest.before last)
    else reader.map some bytes

/-! ## Records -/

/-- One field of a record whose parts are gathered in a draft. -/
structure Field (δ : Type) where
  /-- The name of the member that holds the field. -/
  name : String
  /-- Whether the field has no default. -/
  required : Bool
  /-- Whether the draft has the field. -/
  filled : δ → Bool
  /-- Read the field into the draft. -/
  fill : δ → Reader δ

/-- A record, written as an object with its fields as members in any order or as an array of its
fields in the declared order. -/
structure Record (δ α : Type) where
  /-- What a diagnostic calls the record. -/
  title : String
  /-- The draft without fields. -/
  blank : δ
  /-- The fields as declared. -/
  fields : List (Field δ)
  /-- The record of a full draft, or the fault of the first missing field. -/
  finish : δ → Except Fault α

namespace Record

/-- How the member of a name is read: one that belongs to no field is passed over. -/
def take (record : Record δ α) (draft : δ) (name : String) : Except Fault (Reader δ) :=
  match record.fields.find? fun field => field.name == name with
  | none => .ok (skipped.map fun _ => draft)
  | some field =>
    if field.filled draft then .error (.duplicate name) else .ok (field.fill draft)

/-- What a diagnostic says about the length of an array of fields. -/
def arrayTitle (record : Record δ α) : String :=
  let count := record.fields.length
  record.title ++ " with " ++ toString count ++ (if count = 1 then " element" else " elements")

/-- The end of an array after its last field. -/
def arrayEnd (bytes : Bytes) : Except Fault (Rest bytes) :=
  match next? bytes with
  | none => .error .truncated
  | some (byte, rest) => if ascii byte = ']' then .ok rest else .error .malformed

/-- The given fields, from the one of the given index on, as items of an array. -/
def arrayFields (expected : String) : List (Field δ) → Nat → δ → Reader δ
  | [], _, draft => fun bytes =>
    match arrayEnd bytes with
    | .error fault => .error (.here fault)
    | .ok rest => .ok (draft, rest)
  | field :: fields, index, draft => fun bytes =>
    match upcoming .array (index == 0) bytes with
    | .error fault => .error (.here fault)
    | .ok (.closing rest) =>
      if field.required then .error (.here (.wrongLength index expected))
      else .ok (draft, rest)
    | .ok (.part byte rest) =>
      match (field.fill draft).inside (.element index) (byte :: rest.val) with
      | .error failure => .error failure
      | .ok (more, after) =>
        match arrayFields expected fields (index + 1) more after.val with
        | .error failure => .error failure
        | .ok (all, last) => .ok (all, rest.before (after.uncons.before last).upto)

/-- Read a record. -/
def read (record : Record δ α) : Reader α :=
  Form.read ⟨record.title, fun _ => none,
    some (Reader.refine (arrayFields record.arrayTitle record.fields 0 record.blank) record.finish),
    some (Reader.refine (members record.take true record.blank) record.finish)⟩

end Record

/-- Read a text that holds one value and blanks around it. -/
def document (reader : Reader α) (text : String) : Except Failure α :=
  match reader (Utf8.encode text.toList) with
  | .error failure => .error failure
  | .ok (content, rest) =>
    if space rest.val = [] then .ok content else .error (.here .malformed)

end SignIn.Json
