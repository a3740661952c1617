import SignIn.Decimal.Binary64

/-!
# Shortest decimal digits

The fewest decimal digits that read back as a given binary floating-point number, and the two ways
of writing them out.
-/

namespace SignIn

/-- A decimal number that is not negative: its digits, and the power of ten that the first of them
counts. -/
structure Decimal where
  /-- The digits from the most significant one. -/
  digits : List Char
  /-- The power of ten of the first digit. -/
  exponent : Int
deriving DecidableEq

namespace Binary64

/-- The number of decimal digits of a natural number. -/
def digitCount (number : Nat) : Nat := (Nat.toDigits 10 number).length

/-- The exponent of the leading decimal digit of a positive ratio. -/
def leadingExponent (numerator denominator : Nat) : Int :=
  if denominator ≤ numerator then (digitCount (numerator / denominator) : Int) - 1
  else -(digitCount ((denominator + numerator - 1) / numerator - 1) : Int)

/-- Whether `decimal * 10 ^ place` is less than `binary * 2 ^ exponent`. -/
def decimalBelow (decimal : Nat) (place : Int) (binary : Nat) (exponent : Int) : Bool :=
  decimal * Nat.pow 10 place.toNat * Nat.pow 2 (-exponent).toNat <
    binary * Nat.pow 2 exponent.toNat * Nat.pow 10 (-place).toNat

/-- Whether `binary * 2 ^ exponent` is less than `decimal * 10 ^ place`. -/
def decimalAbove (decimal : Nat) (place : Int) (binary : Nat) (exponent : Int) : Bool :=
  binary * Nat.pow 2 exponent.toNat * Nat.pow 10 (-place).toNat <
    decimal * Nat.pow 10 place.toNat * Nat.pow 2 (-exponent).toNat

/-- Whether `decimal * 10 ^ place` is rounded to the number.  The bounds lie half a spacing away,
below a power of two a quarter; they are rounded to an even significand. -/
def readsBack (number : Binary64) (decimal : Nat) (place : Int) : Bool :=
  let exponent := number.exponent - 2
  let low :=
    if number.significand = leastFull ∧ leastExponent < number.exponent then
      4 * number.significand - 1
    else 4 * number.significand - 2
  let high := 4 * number.significand + 2
  if number.significand % 2 = 0 then
    !decimalBelow decimal place low exponent && !decimalAbove decimal place high exponent
  else decimalAbove decimal place low exponent && decimalBelow decimal place high exponent

/-- The multiple of `10 ^ place` nearest to the number among the two around it that reads back. -/
def nearestOnGrid? (number : Binary64) (place : Int) : Option Nat :=
  let numerator := number.ratio.1 * Nat.pow 10 (-place).toNat
  let denominator := number.ratio.2 * Nat.pow 10 place.toNat
  let below := numerator / denominator
  match number.readsBack below place, number.readsBack (below + 1) place with
  | true, true => some (roundHalfEven numerator denominator)
  | true, false => some below
  | false, true => some (below + 1)
  | false, false => none

/-- A natural number's digits without the zeros at the end. -/
def significantDigits (number : Nat) : List Char :=
  ((Nat.toDigits 10 number).reverse.dropWhile (· == '0')).reverse

/-- The shortest decimal that reads back as the number.  Seventeen digits always do. -/
def shortest (number : Binary64) : Decimal :=
  let leading := leadingExponent number.ratio.1 number.ratio.2
  let found := (List.range 17).findSome? fun (count : Nat) =>
    let place : Int := leading - count
    (number.nearestOnGrid? place).map fun decimal : Nat =>
      (⟨significantDigits decimal, place + digitCount decimal - 1⟩ : Decimal)
  if number.significand = 0 then ⟨['0'], 0⟩ else found.getD ⟨['0'], 0⟩

end Binary64

/-- How a decimal number is laid out. -/
structure DecimalLayout where
  /-- The least leading exponent written without a power of ten. -/
  leastPlain : Int
  /-- The greatest leading exponent written without a power of ten. -/
  greatestPlain : Int
  /-- What stands before an exponent that is not negative. -/
  plus : List Char

namespace DecimalLayout

/-- Digits around a decimal point, with at least one digit on either side. -/
def plain (decimal : Decimal) : List Char :=
  if decimal.exponent < 0 then
    '0' :: '.' :: (List.replicate ((-decimal.exponent).toNat - 1) '0' ++ decimal.digits)
  else
    let whole := decimal.exponent.toNat + 1
    let fraction := decimal.digits.drop whole
    decimal.digits.take whole ++ List.replicate (whole - decimal.digits.length) '0' ++
      '.' :: (if fraction.isEmpty then ['0'] else fraction)

/-- One digit before the point, and a power of ten. -/
def scientific (layout : DecimalLayout) (decimal : Decimal) : List Char :=
  let fraction := decimal.digits.drop 1
  decimal.digits.take 1 ++ (if fraction.isEmpty then [] else '.' :: fraction) ++
    'e' :: ((if decimal.exponent < 0 then ['-'] else layout.plus) ++
      Nat.toDigits 10 decimal.exponent.natAbs)

/-- The text of a decimal number. -/
def render (layout : DecimalLayout) (decimal : Decimal) : List Char :=
  if layout.leastPlain ≤ decimal.exponent ∧ decimal.exponent ≤ layout.greatestPlain then
    plain decimal
  else layout.scientific decimal

end DecimalLayout

end SignIn
