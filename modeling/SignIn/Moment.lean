import SignIn.Duration

/-!
# Moments

Points in time, and the calendar by which they are named.
-/

namespace SignIn

/-- A point in time. -/
structure Moment where
  /-- The nanoseconds since the start of 1970. -/
  nanoseconds : Int
deriving DecidableEq

/-- The time from one moment to another. -/
def Moment.until (before after : Moment) : Duration := ⟨after.nanoseconds - before.nanoseconds⟩

namespace Calendar

/-- Whether a year has a leap day. -/
def isLeapYear (year : Nat) : Bool :=
  year % 4 == 0 && (year % 100 != 0 || year % 400 == 0)

/-- The length of a month, counted from one. -/
def monthLength (year month : Nat) : Nat :=
  if month = 2 then (if isLeapYear year then 29 else 28)
  else if [4, 6, 9, 11].contains month then 30
  else 31

/-- The days from the start of the calendar to the start of a year. -/
def daysBeforeYear (year : Nat) : Int :=
  let last : Int := (year : Int) - 1
  365 * last + last / 4 - last / 100 + last / 400

/-- The days from the start of a year to the start of a month. -/
def daysBeforeMonth (year month : Nat) : Nat :=
  (List.range (month - 1)).foldl (fun days before => days + monthLength year (before + 1)) 0

/-- The days from the start of 1970 to a date. -/
def dayNumber (year month day : Nat) : Int :=
  daysBeforeYear year - daysBeforeYear 1970 + daysBeforeMonth year month + (day - 1 : Int)

/-- The number of the first day of the following month. -/
def nextMonth (year month : Nat) : Int := dayNumber year month 1 + monthLength year month

/-- The start of 1970 is day zero, and a leap day counts. -/
example : dayNumber 1970 1 1 = 0 ∧ dayNumber 2000 3 1 = 11017 ∧ dayNumber 2015 10 21 = 16729 := by
  decide

end Calendar

end SignIn
