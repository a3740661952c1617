/-!
# Tables written as text

Large tables of numbers are kept as one text: blanks separate rows, points the hexadecimal numbers
of a row.
-/

namespace SignIn.Text

/-- What has been read of a table, latest first. -/
structure RowReader where
  /-- The finished rows. -/
  rows : List (List Nat) := []
  /-- The finished numbers of the current row. -/
  row : List Nat := []
  /-- The current number. -/
  number : Option Nat := none

namespace RowReader

/-- End the current number. -/
def endNumber (reader : RowReader) : RowReader :=
  match reader.number with
  | none => reader
  | some number => { reader with row := number :: reader.row, number := none }

/-- End the current row. -/
def endRow (reader : RowReader) : RowReader :=
  let ended := reader.endNumber
  if ended.row.isEmpty then ended
  else { rows := ended.row.reverse :: ended.rows }

/-- Read one character. -/
def step (reader : RowReader) (char : Char) : RowReader :=
  if '0' ≤ char ∧ char ≤ '9' then
    { reader with number := some (reader.number.getD 0 * 16 + (char.toNat - 0x30)) }
  else if 'a' ≤ char ∧ char ≤ 'f' then
    { reader with number := some (reader.number.getD 0 * 16 + (char.toNat - 0x57)) }
  else if char = '.' then reader.endNumber
  else reader.endRow

end RowReader

/-- The rows of a table. -/
def readRows (text : String) : List (List Nat) :=
  (text.toList.foldl RowReader.step {}).endRow.rows.reverse

/-- The rows of a table of ranges. -/
def readRanges (text : String) : List (Nat × Nat) :=
  (readRows text).filterMap fun
    | [first, last] => some (first, last)
    | _ => none

end SignIn.Text
