import SignIn.Moment

/-!
# Dates in fields

Dates as mail and field values write them: an optional weekday, day, month and year, a time, and a
zone by name or by its distance.  Blanks and comments in parentheses may stand between the parts.
-/

namespace SignIn.Date

/-- The text after a comment, of which so many parentheses are open. -/
def afterComment : Nat → List Char → Option (List Char)
  | _, [] => none
  | depth, '\\' :: char :: rest =>
    if 0 < char.toNat ∧ char.toNat < 0x80 then afterComment depth rest else none
  | depth, char :: rest =>
    if char = '(' then afterComment (depth + 1) rest
    else if char = ')' then (if depth ≤ 1 then some rest else afterComment (depth - 1) rest)
    else if char ≠ '\\' ∧ (char = '\t' ∨ (0x20 ≤ char.toNat ∧ char.toNat < 0x80)) then
      afterComment depth rest
    else none

theorem afterComment_length {depth : Nat} {text rest : List Char}
    (found : afterComment depth text = some rest) : rest.length < text.length := by
  fun_induction afterComment depth text with
  | case2 _ _ _ _ ih => exact Nat.lt_succ_of_lt (Nat.lt_succ_of_lt (ih found))
  | case4 _ _ _ ih => exact Nat.lt_succ_of_lt (ih found)
  | case6 _ _ _ _ _ ih => exact Nat.lt_succ_of_lt (ih found)
  | case7 _ _ _ _ _ _ _ ih => exact Nat.lt_succ_of_lt (ih found)
  | case5 => simp_all
  | case1 | case3 | case8 => simp at found

/-- Whether a character is a blank. -/
def isBlank (char : Char) : Bool := char == ' ' || char == '\t'

/-- The text after all blanks and comments at its start. -/
def skipGap (text : List Char) : List Char :=
  match text with
  | [] => []
  | char :: rest =>
    if isBlank char then skipGap rest
    else if char = '(' then
      match found : afterComment 1 rest with
      | some after =>
        have := afterComment_length found
        skipGap after
      | none => char :: rest
    else char :: rest
termination_by text.length

/-- The text after at least one blank or comment. -/
def gap? (text : List Char) : Option (List Char) :=
  let rest := skipGap text
  if rest.length < text.length then some rest else none

/-- The text after at least one blank. -/
def blanks? (text : List Char) : Option (List Char) :=
  let rest := text.dropWhile isBlank
  if rest.length < text.length then some rest else none

/-- The text after a given character. -/
def after? (sign : Char) : List Char → Option (List Char)
  | [] => none
  | char :: rest => if char = sign then some rest else none

/-- The number that so many digits at the start of a text spell. -/
def number? (count : Nat) (text : List Char) : Option (Nat × List Char) :=
  let digits := text.take count
  if digits.length = count ∧ digits.all Char.isDigit = true then
    some (digits.foldl (fun number digit => number * 10 + (digit.toNat - 0x30)) 0, text.drop count)
  else none

/-- What the first of the given words at the start of a text stands for, in whatever case. -/
def word? {α : Type} (words : List (String × α)) (text : List Char) : Option (α × List Char) :=
  words.findSome? fun (word, meaning) =>
    if (text.take word.length).map Char.toLower = word.toList then
      some (meaning, text.drop word.length)
    else none

/-- The names of the weekdays. -/
def weekdays : List (String × Unit) :=
  ["mon", "tue", "wed", "thu", "fri", "sat", "sun"].map fun name => (name, ())

/-- The names of the months, in order. -/
def months : List (String × Nat) :=
  (["jan", "feb", "mar", "apr", "may", "jun", "jul", "aug", "sep", "oct", "nov", "dec"].zipIdx 1)

/-- The named zones with their distances in hours. -/
def zones : List (String × Int) := [("ut", 0), ("gmt", 0), ("est", -5), ("edt", -4), ("cst", -6),
  ("cdt", -5), ("mst", -7), ("mdt", -6), ("pst", -8), ("pdt", -7)]

/-- The text after an optional weekday and its comma. -/
def skipWeekday? (text : List Char) : Option (List Char) :=
  match word? weekdays text with
  | none => some text
  | some (_, rest) => (after? ',' rest).map skipGap

/-- A day of one or two digits. -/
def day? (text : List Char) : Option (Nat × List Char) := (number? 2 text).or (number? 1 text)

/-- A year of four digits, or of two in the century around 2000, and the gap after it. -/
def year? (text : List Char) : Option (Nat × List Char) :=
  match number? 4 text with
  | some (year, rest) => if 1900 ≤ year then (blanks? rest).map (year, ·) else none
  | none => do
    let (short, rest) ← number? 2 text
    let rest ← gap? rest
    pure (if short < 50 then short + 2000 else short + 1900, rest)

/-- The seconds, which may be left out, and the gap after the time. -/
def second? (text : List Char) : Option (Nat × List Char) :=
  match after? ':' (skipGap text) with
  | some rest => do
    let (second, rest) ← number? 2 (skipGap rest)
    let rest ← gap? rest
    pure (second, rest)
  | none => (gap? text).map (0, ·)

/-- A single letter names a zone that is not told apart from the universal one. -/
def letterZone? : List Char → Option (Int × List Char)
  | [] => none
  | char :: rest => if char.isAlpha ∧ char.toLower ≠ 'j' then some (0, rest) else none

/-- A distance in hours and minutes, in minutes.  The sign counts only for hours other than zero. -/
def distance? : List Char → Option (Int × List Char)
  | [] => none
  | sign :: text =>
    if sign = '+' ∨ sign = '-' then do
      let (hours, rest) ← number? 2 text
      let (minutes, rest) ← number? 2 rest
      if hours ≤ 25 ∧ minutes ≤ 59 then
        let size : Int := hours * 60 + minutes
        pure (if sign = '-' ∧ hours ≠ 0 then -size else size, rest)
      else none
    else none

/-- The distance of a zone, in minutes. -/
def zone? (text : List Char) : Option (Int × List Char) :=
  match word? zones text with
  | some (hours, rest) => some (hours * 60, rest)
  | none => (letterZone? text).or (distance? text)

/-- The parts of a date. -/
structure Parts where
  /-- The year. -/
  year : Nat
  /-- The month, counted from one. -/
  month : Nat
  /-- The day of the month. -/
  day : Nat
  /-- The hour. -/
  hour : Nat
  /-- The minute. -/
  minute : Nat
  /-- The second, which may be a leap second. -/
  second : Nat
  /-- The distance of the zone in minutes. -/
  zone : Int

/-- Read the parts of a date. -/
def parts? (text : List Char) : Option Parts := do
  let (day, rest) ← day? (← skipWeekday? (skipGap text))
  let (month, rest) ← word? months (← gap? rest)
  let (year, rest) ← year? (← gap? rest)
  let (hour, rest) ← number? 2 rest
  let rest ← after? ':' (skipGap rest)
  let (minute, rest) ← number? 2 (skipGap rest)
  let (second, rest) ← second? rest
  let (zone, rest) ← zone? rest
  if skipGap rest = [] then pure ⟨year, month, day, hour, minute, second, zone⟩ else none

namespace Parts

/-- The seconds of a minute as they are counted: a leap second stands at the end of the one
before. -/
def countedSecond (parts : Parts) : Nat := if parts.second = 60 then 59 else parts.second

/-- The seconds from the start of 1970. -/
def seconds (parts : Parts) : Int :=
  Calendar.dayNumber parts.year parts.month parts.day * 86400 + parts.hour * 3600 +
    parts.minute * 60 + parts.countedSecond - parts.zone * 60

/-- Whether a leap second may follow: only at the end of a month. -/
def endsMonth (parts : Parts) : Bool :=
  let next := parts.seconds + 1
  next == Calendar.dayNumber parts.year parts.month 1 * 86400 ||
    next == Calendar.nextMonth parts.year parts.month * 86400

/-- Whether the parts name a moment. -/
def isValid (parts : Parts) : Bool :=
  1 ≤ parts.day && parts.day ≤ Calendar.monthLength parts.year parts.month && parts.hour ≤ 23 &&
    parts.minute ≤ 59 && parts.second ≤ 60 && (parts.second != 60 || parts.endsMonth)

/-- The moment that the parts name.  A leap second is the last nanosecond before it is over. -/
def moment (parts : Parts) : Moment :=
  ⟨parts.seconds * Duration.perSecond + (if parts.second = 60 then Duration.perSecond - 1 else 0)⟩

end Parts

/-- Read a date. -/
def read? (text : List Char) : Option Moment :=
  match parts? text with
  | some parts => if parts.isValid then some parts.moment else none
  | none => none

end SignIn.Date
