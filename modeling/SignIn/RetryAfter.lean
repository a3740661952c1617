import SignIn.Date
import SignIn.Header

/-!
# Retry-After

How long an answer asks to wait before the next attempt: a number of seconds, or a date.
-/

namespace SignIn.RetryAfter

/-- The name of the header. -/
def name : String := "retry-after"

/-- The greatest number of seconds that is counted, which is the greatest of 63 binary digits. -/
def greatest : Nat := 9223372036854775807

/-- The greatest number that is a number at all, which is the greatest of 64 binary digits; what is
greater is looked at as a date. -/
def greatestNumber : Nat := 18446744073709551615

/-- The number that a text spells, with or without a plus sign. -/
def number? (text : List Char) : Option Nat :=
  let digits := match text with
    | '+' :: rest => rest
    | _ => text
  if digits ≠ [] ∧ digits.all Char.isDigit = true then
    let number := digits.foldl (fun number digit => number * 10 + (digit.toNat - 0x30)) 0
    if number ≤ greatestNumber then some number else none
  else none

/-- The wait that a value asks for.  A date that is not in the future asks for none. -/
def ofValue (now : Moment) (value : List Char) : Option Duration :=
  let text := Text.trim value
  match number? text with
  | some number => if number ≤ greatest then some (.ofSeconds number) else none
  | none =>
    match Date.read? text with
    | some moment =>
      if now.nanoseconds < moment.nanoseconds then some (now.until moment) else none
    | none => none

/-- The wait that a message asks for; only the first header of the name counts. -/
def ofMessage (now : Moment) (message : Message) : Option Duration :=
  match message.single name with
  | .ok value => ofValue now value.toList
  | .error _ => none

end SignIn.RetryAfter
