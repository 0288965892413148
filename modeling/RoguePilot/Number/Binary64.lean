import RoguePilot.Number.Numeral

/-!
# Binary floating-point numbers of 64 bits

A number is held by its bits: one sign bit, eleven exponent bits and fifty-two fraction bits. Decimal
fractions are read to the nearest such number, a tie going to the one whose last bit is zero, and
numbers are printed with a fixed count of decimal places, all in exact natural-number arithmetic.
-/

namespace RoguePilot

/-- A binary floating-point number, known by its bits. -/
structure Binary64 where
  /-- Sign, biased exponent and fraction, from the highest bit down. -/
  bits : UInt64
deriving DecidableEq, Repr, Inhabited

namespace Binary64

/-- Positive zero. -/
def zero : Binary64 := ⟨0⟩

/-- Positive infinity. -/
def infinity : Binary64 := ⟨0x7FF0000000000000⟩

/-- The quotient rounded to the nearest integer; a half goes to the even neighbour. -/
def roundDiv (numerator denominator : Nat) : Nat :=
  let quotient := numerator / denominator
  let remainder := numerator % denominator
  if 2 * remainder < denominator then quotient
  else if denominator < 2 * remainder then quotient + 1
  else quotient + quotient % 2

/-- The fraction divided by a power of two, as numerator and denominator. -/
def scaleDown (numerator denominator : Nat) (exponent : Int) : Nat × Nat :=
  if 0 ≤ exponent then (numerator, denominator * Nat.pow 2 exponent.toNat)
  else (numerator * Nat.pow 2 (-exponent).toNat, denominator)

/-- The weight of the last bit of the number nearest to a positive fraction, as a power of two. -/
def lastPlace (numerator denominator : Nat) : Int :=
  let estimate : Int := (numerator.log2 : Int) - denominator.log2 - 52
  let scaled := scaleDown numerator denominator estimate
  max (if scaled.1 / scaled.2 < Nat.pow 2 52 then estimate - 1 else estimate) (-1074)

/-- The number nearest to a fraction with a positive denominator; infinity if it is too great. -/
def ofFraction (numerator denominator : Nat) : Binary64 :=
  if numerator = 0 then zero
  else
    let place := lastPlace numerator denominator
    if 971 < place then infinity
    else
      let scaled := scaleDown numerator denominator place
      ⟨UInt64.ofNat ((place + 1074).toNat * Nat.pow 2 52 + roundDiv scaled.1 scaled.2)⟩

/-- The number nearest to `digits` times ten to the power of `exponent`. -/
def ofDecimal (digits : Nat) (exponent : Int) : Binary64 :=
  if 0 ≤ exponent then ofFraction (digits * Nat.pow 10 exponent.toNat) 1
  else ofFraction digits (Nat.pow 10 (-exponent).toNat)

/--
The number a decimal text stands for: digits with at most one point among or beside them, and at least
one digit.
-/
def read? (text : List Char) : Option Binary64 :=
  let whole := text.takeWhile (· ≠ '.')
  let fraction := (text.dropWhile (· ≠ '.')).drop 1
  (Numeral.value? 10 (whole ++ fraction)).map fun digits => ofDecimal digits (-fraction.length)

/-- The sign bit is set. -/
def isNegative (number : Binary64) : Bool :=
  Nat.pow 2 63 ≤ number.bits.toNat

/-- The biased exponent. -/
def exponentField (number : Binary64) : Nat :=
  number.bits.toNat / Nat.pow 2 52 % Nat.pow 2 11

/-- The fraction bits. -/
def fractionField (number : Binary64) : Nat :=
  number.bits.toNat % Nat.pow 2 52

/-- The magnitude of a finite number, as numerator and denominator. -/
def magnitude (number : Binary64) : Nat × Nat :=
  if number.exponentField = 0 then (number.fractionField, Nat.pow 2 1074)
  else
    let significand := Nat.pow 2 52 + number.fractionField
    if 1075 ≤ number.exponentField then (significand * Nat.pow 2 (number.exponentField - 1075), 1)
    else (significand, Nat.pow 2 (1075 - number.exponentField))

/-- The magnitude in decimal with the given count of places, correctly rounded, half to even. -/
def fixedMagnitude (places : Nat) (number : Binary64) : List Char :=
  let exact := number.magnitude
  let units := roundDiv (exact.1 * Nat.pow 10 places) exact.2
  let whole := Numeral.decimal (units / Nat.pow 10 places)
  if places = 0 then whole
  else whole ++ '.' :: Numeral.lastDigits 10 places (units % Nat.pow 10 places)

/-- The number with a fixed count of decimal places; infinities and non-numbers by name. -/
def fixed (places : Nat) (number : Binary64) : List Char :=
  if number.exponentField = 0x7FF then
    if number.fractionField ≠ 0 then "NaN".toList
    else if number.isNegative then "-inf".toList
    else "inf".toList
  else if number.isNegative then '-' :: number.fixedMagnitude places
  else number.fixedMagnitude places

end Binary64

end RoguePilot
