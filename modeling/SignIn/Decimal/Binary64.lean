/-!
# Binary floating point

The non-negative finite numbers of the 64-bit binary floating-point format, with multiplication and
division rounded to nearest and ties to even.  All arithmetic is exact on natural numbers until the
one rounding step `Binary64.ofRatio?`.
-/

namespace SignIn

/-- The number `significand * 2 ^ exponent`. -/
structure Binary64 where
  /-- At most 53 binary digits. -/
  significand : Nat
  /-- The power of two that the significand counts. -/
  exponent : Int
deriving DecidableEq

namespace Binary64

/-- The least significand of 53 binary digits. -/
def leastFull : Nat := 4503599627370496

/-- The exponent of the finest spacing. -/
def leastExponent : Int := -1074

/-- The exponent of the coarsest spacing. -/
def greatestExponent : Int := 971

/-- Zero. -/
def zero : Binary64 := ⟨0, leastExponent⟩

/-- A ratio divided by a power of two, as a ratio. -/
def unscale (numerator denominator : Nat) (exponent : Int) : Nat × Nat :=
  if 0 ≤ exponent then (numerator, denominator * Nat.pow 2 exponent.toNat)
  else (numerator * Nat.pow 2 (-exponent).toNat, denominator)

/-- The integer nearest to a ratio, the even one of two. -/
def roundHalfEven (numerator denominator : Nat) : Nat :=
  let quotient := numerator / denominator
  let excess := 2 * (numerator % denominator)
  if excess < denominator then quotient
  else if denominator < excess then quotient + 1
  else quotient + quotient % 2

/-- The number nearest to a ratio, the even one of two, unless it would be too great. -/
def ofRatio? (numerator denominator : Nat) : Option Binary64 :=
  if numerator = 0 then some zero
  else
    let guess : Int := (numerator.log2 : Int) - denominator.log2 - 53
    let guessed := unscale numerator denominator guess
    let exponent := max leastExponent (if guessed.1 / guessed.2 < 2 * leastFull then guess else guess + 1)
    let scaled := unscale numerator denominator exponent
    let significand := roundHalfEven scaled.1 scaled.2
    let rounded : Binary64 :=
      if significand = 2 * leastFull then ⟨leastFull, exponent + 1⟩ else ⟨significand, exponent⟩
    if rounded.exponent ≤ greatestExponent then some rounded else none

/-- The exact value as a ratio. -/
def ratio (number : Binary64) : Nat × Nat :=
  if 0 ≤ number.exponent then (number.significand * Nat.pow 2 number.exponent.toNat, 1)
  else (number.significand, Nat.pow 2 (-number.exponent).toNat)

/-- The rounded product. -/
def mul? (left right : Binary64) : Option Binary64 :=
  ofRatio? (left.ratio.1 * right.ratio.1) (left.ratio.2 * right.ratio.2)

/-- The rounded quotient. -/
def div? (left right : Binary64) : Option Binary64 :=
  ofRatio? (left.ratio.1 * right.ratio.2) (left.ratio.2 * right.ratio.1)

/-- The number nearest to a natural number. -/
def ofNat? (number : Nat) : Option Binary64 := ofRatio? number 1

/-- The number nearest to a power of ten within range. -/
def powerOfTen (exponent : Nat) : Binary64 := (ofNat? (Nat.pow 10 exponent)).getD zero

/-- A number divided by the greatest power of ten in range as often as asked, unless it vanishes
before. -/
def lower? : Nat → Binary64 → Option Binary64
  | 0, number => some number
  | count + 1, number =>
    if number.significand = 0 then some number
    else (number.div? (powerOfTen 308)).bind (lower? count)

/-- A number times a power of ten, in floating point: one product or quotient if the power is in
range, and further quotients by the greatest power in range if the exponent is far below zero. -/
def shift? (number : Binary64) (exponent : Int) : Option Binary64 :=
  let size := exponent.natAbs
  if 0 ≤ exponent then
    if size ≤ 308 then number.mul? (powerOfTen size)
    else if number.significand = 0 then some number
    else none
  else
    let steps := (size - 1) / 308
    (lower? steps number).bind fun lowered => lowered.div? (powerOfTen (size - 308 * steps))

/-- The value of a decimal numeral with an integer significand.  The significand is rounded first
and then shifted, so the last digit may differ from the number nearest to the numeral. -/
def ofDecimal? (significand : Nat) (exponent : Int) : Option Binary64 :=
  match ofNat? significand with
  | none => none
  | some number => number.shift? exponent

end Binary64

end SignIn
