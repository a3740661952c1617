import SignIn.Text.CaseTable
import SignIn.Text.Rows
import SignIn.Url.Domain.CompositionTable
import SignIn.Url.Domain.MappingTable

/-!
# The normal form of a domain

Characters of a domain are mapped one by one, which removes differences of case and of width, and
then composed.  `normal?` is the whole step; a text that it leaves alone is normal.
-/

namespace SignIn.Domain

/-- Code points from `first` to `last` in steps of `step`, mapped to as many others from `target`
on in the same distances. -/
structure MappedRun where
  /-- The least code point. -/
  first : Nat
  /-- The greatest code point. -/
  last : Nat
  /-- The distance of neighbours. -/
  step : Nat
  /-- What the least code point is mapped to. -/
  target : Nat

/-- The runs of mapped code points. -/
def mappedRunRows : List MappedRun :=
  (Text.readRows mappedRuns).filterMap fun
    | [first, last, step, target] => some ⟨first, last, step, target⟩
    | _ => none

/-- The single mapped code points. -/
def mappedTextRows : List (Nat × List Char) :=
  (Text.readRows mappedTexts).filterMap fun
    | code :: target => some (code, target.map Char.ofNat)
    | [] => none

/-- The dropped code points. -/
def ignoredRows : List (Nat × Nat) := Text.readRanges ignoredRanges

/-- The code points that no domain may hold. -/
def disallowedRows : List (Nat × Nat) := Text.readRanges disallowedRanges

/-- The lower case of an ASCII letter. -/
def lowerAscii (char : Char) : Char := char.toLower

/-- What a character is mapped to, if a domain may hold it. -/
def mapChar? (char : Char) : Option (List Char) :=
  let code := char.toNat
  if code < 0x80 then some [lowerAscii char]
  else
    match mappedRunRows.find? fun run =>
        run.first ≤ code && code ≤ run.last && (code - run.first) % run.step == 0 with
    | some run => some [Char.ofNat (run.target + (code - run.first))]
    | none =>
      match mappedTextRows.find? (·.1 == code) with
      | some row => some row.2
      | none =>
        if Text.inRanges ignoredRows code then some []
        else if Text.inRanges disallowedRows code then none
        else some [char]

/-! ## Composition -/

/-- The composed characters with their parts. -/
def compositionRows : List (Char × Char × Char) :=
  (Text.readRows compositions).filterMap fun
    | [whole, first, second] => some (Char.ofNat whole, Char.ofNat first, Char.ofNat second)
    | _ => none

/-- The classes of marks. -/
def classRows : List (Nat × Nat × Nat) :=
  (Text.readRows combiningClasses).filterMap fun
    | [first, last, number] => some (first, last, number)
    | _ => none

/-- The combining class of a character: zero for all that starts anew. -/
def combiningClass (char : Char) : Nat :=
  let code := char.toNat
  if code < 0x300 then 0
  else
    match classRows.find? fun row => row.1 ≤ code && code ≤ row.2.1 with
    | some row => row.2.2
    | none => 0

/-- The parts of a Korean syllable. -/
def syllableParts (code : Nat) : List Char :=
  let index := code - 0xAC00
  let tail := index % 28
  [Char.ofNat (0x1100 + index / 588), Char.ofNat (0x1161 + index % 588 / 28)] ++
    (if tail = 0 then [] else [Char.ofNat (0x11A7 + tail)])

/-- The parts of a character, taken apart as often as given. -/
def decomposeChar : Nat → Char → List Char
  | 0, char => [char]
  | depth + 1, char =>
    let code := char.toNat
    if code < 0xC0 then [char]
    else if 0xAC00 ≤ code ∧ code ≤ 0xD7A3 then syllableParts code
    else
      match compositionRows.find? (·.1 == char) with
      | some (_, first, second) => decomposeChar depth first ++ [second]
      | none => [char]

/-- Put a mark in its place among the marks before it, which are listed latest first. -/
def placeMark (mark : Char × Nat) : List (Char × Nat) → List (Char × Nat)
  | [] => [mark]
  | last :: before =>
    if mark.2 ≠ 0 ∧ mark.2 < last.2 then last :: placeMark mark before else mark :: last :: before

/-- Take all characters apart and sort the marks after each character. -/
def decompose (text : List Char) : List (Char × Nat) :=
  ((text.flatMap (decomposeChar 4)).foldl
    (fun placed char => placeMark (char, combiningClass char) placed) []).reverse

/-- The character that two others compose. -/
def compose? (first second : Char) : Option Char :=
  let head := first.toNat
  let tail := second.toNat
  if 0x1100 ≤ head ∧ head ≤ 0x1112 ∧ 0x1161 ≤ tail ∧ tail ≤ 0x1175 then
    some (Char.ofNat (0xAC00 + ((head - 0x1100) * 21 + (tail - 0x1161)) * 28))
  else if 0xAC00 ≤ head ∧ head ≤ 0xD7A3 ∧ (head - 0xAC00) % 28 = 0 ∧ 0x11A8 ≤ tail ∧
      tail ≤ 0x11C2 then
    some (Char.ofNat (head + (tail - 0x11A7)))
  else (compositionRows.find? fun row => row.2.1 == first && row.2.2 == second).map (·.1)

/-- A text that is being composed. -/
structure Composer where
  /-- What is finished, latest first. -/
  done : List Char := []
  /-- The character that further marks may join. -/
  starter : Option Char := none
  /-- The marks after it that have not joined it, latest first. -/
  marks : List (Char × Nat) := []

namespace Composer

/-- Everything so far, latest first. -/
def flush (composer : Composer) : List Char :=
  composer.marks.map (·.1) ++ composer.starter.toList ++ composer.done

/-- Take one more character. -/
def step (composer : Composer) (next : Char × Nat) : Composer :=
  let free := match composer.marks with
    | [] => true
    | last :: _ => last.2 < next.2
  let joined := if free then composer.starter.bind (compose? · next.1) else none
  match joined with
  | some whole => { composer with starter := some whole }
  | none =>
    if next.2 = 0 then { done := composer.flush, starter := some next.1 }
    else { composer with marks := next :: composer.marks }

end Composer

/-- The composed form of a text. -/
def compose (text : List Char) : List Char :=
  ((decompose text).foldl Composer.step {}).flush.reverse

/-- The normal form of a text, unless it holds a character that no domain may hold. -/
def normal? (text : List Char) : Option (List Char) :=
  (text.mapM mapChar?).map fun parts => compose parts.flatten

end SignIn.Domain
