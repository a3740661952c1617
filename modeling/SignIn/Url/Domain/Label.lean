import SignIn.Text.CaseTable
import SignIn.Text.Rows
import SignIn.Url.Domain.ClassTable
import SignIn.Url.Domain.CompositionTable
import SignIn.Url.Domain.Normal

/-!
# Rules for the labels of a domain

A label beyond ASCII must not start with a mark, may hold invisible joiners only where they matter,
and in a domain that has text from right to left all labels must keep one direction each.
-/

namespace SignIn.Domain

/-- Nonspacing marks. -/
def nonspacingRows : List (Nat × Nat) := Text.readRanges nonspacingMarks

/-- Other marks. -/
def spacingRows : List (Nat × Nat) := Text.readRanges spacingMarks

/-- Letters from right to left. -/
def rightToLeftRows : List (Nat × Nat) := Text.readRanges rightToLeft

/-- Digits inside text from right to left. -/
def arabicRows : List (Nat × Nat) := Text.readRanges arabicDigits

/-- European digits. -/
def europeanRows : List (Nat × Nat) := Text.readRanges europeanDigits

/-- Characters without a direction. -/
def neutralRows : List (Nat × Nat) := Text.readRanges neutrals

/-- Letters that join both neighbours. -/
def dualRows : List (Nat × Nat) := Text.readRanges dualJoining

/-- Letters that join the one on their right. -/
def rightRows : List (Nat × Nat) := Text.readRanges rightJoining

/-- Letters that join the one on their left. -/
def leftRows : List (Nat × Nat) := Text.readRanges leftJoining

/-- Whether a character is a nonspacing mark. -/
def isNonspacing (char : Char) : Bool :=
  0x300 ≤ char.toNat && Text.inRanges nonspacingRows char.toNat

/-- Whether a character is a mark. -/
def isMark (char : Char) : Bool :=
  isNonspacing char || (0x300 ≤ char.toNat && Text.inRanges spacingRows char.toNat)

/-! ## Joiners -/

/-- Whether a character joins the one after it. -/
def joinsForward (char : Char) : Bool :=
  Text.inRanges leftRows char.toNat || Text.inRanges dualRows char.toNat

/-- Whether a character joins the one before it. -/
def joinsBackward (char : Char) : Bool :=
  Text.inRanges rightRows char.toNat || Text.inRanges dualRows char.toNat

/-- Whether the first character that is no nonspacing mark has a property. -/
def firstLetter (property : Char → Bool) (text : List Char) : Bool :=
  match text.dropWhile isNonspacing with
  | [] => false
  | char :: _ => property char

/-- The combining class of a virama. -/
def viramaClass : Nat := 9

/-- Whether all joiners that follow what has been passed stand where they matter: behind a virama,
or, for the one that separates, between letters that would join. -/
def joinersFit : List Char → List Char → Bool
  | _, [] => true
  | passed, char :: rest =>
    let behindVirama := (passed.head?.map combiningClass) == some viramaClass
    let fits :=
      if char = '\u200C' then
        behindVirama || (firstLetter joinsForward passed && firstLetter joinsBackward rest)
      else if char = '\u200D' then behindVirama
      else true
    fits && joinersFit (char :: passed) rest

/-! ## Directions -/

/-- How a character runs. -/
inductive Direction where
  /-- A letter from left to right. -/
  | leftToRight
  /-- A letter from right to left. -/
  | rightToLeft
  /-- A digit of a European number. -/
  | european
  /-- A digit of a number inside text from right to left. -/
  | arabic
  /-- A nonspacing mark. -/
  | nonspacing
  /-- No direction of its own. -/
  | neutral
deriving DecidableEq

/-- How a character runs. -/
def direction (char : Char) : Direction :=
  let code := char.toNat
  if code < 0x80 then
    if char.isAlpha then .leftToRight else if char.isDigit then .european else .neutral
  else if isNonspacing char then .nonspacing
  else if Text.inRanges rightToLeftRows code then .rightToLeft
  else if Text.inRanges arabicRows code then .arabic
  else if Text.inRanges europeanRows code then .european
  else if Text.inRanges neutralRows code then .neutral
  else .leftToRight

/-- Whether a label keeps one direction. -/
def isDirected (label : List Char) : Bool :=
  match label.map direction with
  | [] => true
  | first :: others =>
    let tail := (others.reverse.dropWhile (· == .nonspacing)).reverse
    let last := tail.getLast?
    match first with
    | .leftToRight =>
      (last == none || last == some .leftToRight || last == some .european) &&
        tail.all fun each => each != .rightToLeft && each != .arabic
    | .rightToLeft =>
      (last == none || last == some .rightToLeft || last == some .european ||
          last == some .arabic) &&
        tail.all (· != .leftToRight) && !(tail.contains .european && tail.contains .arabic)
    | _ => false

/-- Whether a domain has text from right to left. -/
def hasRightToLeft (labels : List (List Char)) : Bool :=
  labels.any (·.any fun char => direction char == .rightToLeft || direction char == .arabic)

/-- Whether the rules for a single label hold. -/
def isValidLabel (label : List Char) : Bool :=
  (label.head?.map isMark != some true) && joinersFit [] label

/-- Whether the rules for all labels together hold. -/
def areDirected (labels : List (List Char)) : Bool :=
  !hasRightToLeft labels || labels.all isDirected

end SignIn.Domain
