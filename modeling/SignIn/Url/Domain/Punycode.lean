/-!
# Labels beyond ASCII as ASCII

A label is written as its ASCII characters, a hyphen and a sequence of numbers, one for each other
character in ascending order of the characters: how far the place to insert it lies from the last
one, counted over places and characters.  The numbers are written with digits of changing weights,
the least significant one first.
-/

namespace SignIn.Domain.Punycode

/-- The digit of a value below thirty-six: letters, then decimal digits. -/
def digit (value : Nat) : Char :=
  Char.ofNat (if value < 26 then 0x61 + value else 0x16 + value)

/-- The value of a digit. -/
def value? (char : Char) : Option Nat :=
  if 'a' ≤ char ∧ char ≤ 'z' then some (char.toNat - 0x61)
  else if 'A' ≤ char ∧ char ≤ 'Z' then some (char.toNat - 0x41)
  else if '0' ≤ char ∧ char ≤ '9' then some (char.toNat - 0x16)
  else none

/-- The least value of a digit at a given place that is not the last one of its number. -/
def threshold (place bias : Nat) : Nat := max 1 (min 26 (place - bias))

theorem threshold_bounds (place bias : Nat) :
    1 ≤ threshold place bias ∧ threshold place bias ≤ 26 := by
  unfold threshold
  omega

/-- Divide a number until it is small, and count the divisions in steps of thirty-six. -/
def shrink (number place : Nat) : Nat × Nat :=
  if 455 < number then shrink (number / 35) (place + 36) else (number, place)
termination_by number
decreasing_by exact Nat.div_lt_self (by omega) (by omega)

/-- The bias of the next number, after the given number has been written for one of so many
characters. -/
def adapt (number characters : Nat) (first : Bool) : Nat :=
  let scaled := if first then number / 700 else number / 2
  let shrunk := shrink (scaled + scaled / characters) 0
  shrunk.2 + 36 * shrunk.1 / (shrunk.1 + 38)

/-- The digits of a number from the given place on. -/
def digits (bias place number : Nat) : List Char :=
  let least := threshold place bias
  if number < least then [digit number]
  else
    digit (least + (number - least) % (36 - least)) ::
      digits bias (place + 36) ((number - least) / (36 - least))
termination_by number
decreasing_by
  have bounds := threshold_bounds place bias
  exact Nat.lt_of_le_of_lt (Nat.div_le_self _ _) (by omega)

/-! ## Writing -/

/-- A label that is being written. -/
structure Draft where
  /-- The parts written so far, latest first. -/
  written : List (List Char)
  /-- How far the current place lies from the last insertion. -/
  distance : Nat
  /-- The bias of the next number. -/
  bias : Nat
  /-- How many characters have been written. -/
  count : Nat

/-- Pass over a character of the label while the given one is being inserted. -/
def Draft.pass (basic current : Nat) (draft : Draft) (char : Char) : Draft :=
  if char.toNat < current then { draft with distance := draft.distance + 1 }
  else if char.toNat = current then
    ⟨digits draft.bias 36 draft.distance :: draft.written, 0,
      adapt draft.distance (draft.count + 1) (draft.count == basic), draft.count + 1⟩
  else draft

/-- Insert the characters of the given code points, the next of which is at least `least`. -/
def insertAll (label : List Char) (basic : Nat) : List Nat → Nat → Draft → Draft
  | [], _, draft => draft
  | current :: later, least, draft =>
    let moved := { draft with distance := draft.distance + (current - least) * (draft.count + 1) }
    let passed := label.foldl (Draft.pass basic current) moved
    insertAll label basic later (current + 1) { passed with distance := passed.distance + 1 }

/-- The ASCII characters of a label. -/
def basicPart (label : List Char) : List Char := label.filter (·.toNat < 0x80)

/-- The other code points of a label in ascending order, each once. -/
def otherPoints (label : List Char) : List Nat :=
  (((label.filter (0x80 ≤ ·.toNat)).map Char.toNat).mergeSort (· ≤ ·)).eraseReps

/-- Write a label. -/
def encode (label : List Char) : List Char :=
  let basic := basicPart label
  let done := insertAll label basic.length (otherPoints label) 0x80 ⟨[], 0, 72, basic.length⟩
  (if basic.isEmpty then [] else basic ++ ['-']) ++ done.written.reverse.flatten

/-! ## Reading -/

/-- Read the digits of one number from the given place and weight on, and add it to what has been
gathered. -/
def number? (bias : Nat) : List Char → Nat → Nat → Nat → Option (Nat × List Char)
  | [], _, _, _ => none
  | char :: rest, place, weight, gathered =>
    match value? char with
    | none => none
    | some value =>
      let least := threshold place bias
      if value < least then some (gathered + value * weight, rest)
      else number? bias rest (place + 36) (weight * (36 - least)) (gathered + value * weight)

theorem number?_length {bias : Nat} {text : List Char} {place weight gathered : Nat}
    {read : Nat × List Char} (found : number? bias text place weight gathered = some read) :
    read.2.length < text.length := by
  induction text generalizing place weight gathered with
  | nil => simp [number?] at found
  | cons char rest ih =>
    rw [number?] at found
    split at found
    · simp at found
    · dsimp only at found
      split at found
      · rw [← Option.some.inj found]
        exact Nat.lt_succ_self _
      · exact Nat.lt_succ_of_lt (ih found)

/-- Insert the characters of the remaining numbers into what has been read of a label. -/
def decodeFrom (bias point place : Nat) (label : List Char) (text : List Char) :
    Option (List Char) :=
  match text with
  | [] => some label
  | char :: rest =>
    match read : number? bias (char :: rest) 36 1 place with
    | none => none
    | some (sum, after) =>
      have := number?_length read
      let count := label.length + 1
      let next := point + sum / count
      if next.isValidChar then
        decodeFrom (adapt (sum - place) count (place == 0)) next (sum % count + 1)
          (label.insertIdx (sum % count) (Char.ofNat next)) after
      else none
termination_by text.length
decreasing_by exact this

/-- Cut a text at its last hyphen, unless it starts there. -/
def splitLast (text : List Char) : List Char × List Char :=
  let last := (text.reverse.takeWhile (· != '-')).reverse
  let before := text.take (text.length - last.length - 1)
  if before.isEmpty then ([], text) else (before, last)

/-- Read a label. -/
def decode? (text : List Char) : Option (List Char) :=
  let parts := splitLast text
  decodeFrom 72 0x80 0 parts.1 parts.2

end SignIn.Domain.Punycode
