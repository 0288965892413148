/-!
# Numerals

Natural numbers written with digits. A numeral has at least one digit and nothing but digits, in the
given base; the value may be capped by what its reader can hold.
-/

namespace RoguePilot.Numeral

/-- The value of one digit in a base up to sixteen, letters of either case included. -/
def digit? (base : Nat) (character : Char) : Option Nat :=
  let value? : Option Nat :=
    if '0' ≤ character ∧ character ≤ '9' then some (character.toNat - '0'.toNat)
    else if 'a' ≤ character ∧ character ≤ 'f' then some (character.toNat - 'a'.toNat + 10)
    else if 'A' ≤ character ∧ character ≤ 'F' then some (character.toNat - 'A'.toNat + 10)
    else none
  value?.filter (· < base)

/-- Reads digits after a number that is already known. -/
def extend? (base : Nat) : Nat → List Char → Option Nat
  | value, [] => some value
  | value, character :: rest =>
    match digit? base character with
    | some next => extend? base (value * base + next) rest
    | none => none

/-- The value of a numeral in the given base. -/
def value? (base : Nat) (text : List Char) : Option Nat :=
  if text.isEmpty then none else extend? base 0 text

/-- The value of a decimal numeral that does not exceed the greatest admissible number. -/
def decimalUpTo? (greatest : Nat) (text : List Char) : Option Nat :=
  (value? 10 text).filter (· ≤ greatest)

/-- A decimal numeral, which may be preceded by one plus sign, up to the greatest admissible number. -/
def unsignedUpTo? (greatest : Nat) : List Char → Option Nat
  | '+' :: digits => decimalUpTo? greatest digits
  | digits => decimalUpTo? greatest digits

/-- The character for a digit below sixteen; the letters are lower-case. -/
def digitChar (digit : Nat) : Char :=
  if digit < 10 then Char.ofNat ('0'.toNat + digit) else Char.ofNat ('a'.toNat + digit - 10)

/-- The last `count` digits of a number in the given base, most significant first. -/
def lastDigits (base : Nat) : Nat → Nat → List Char
  | 0, _ => []
  | count + 1, number => lastDigits base count (number / base) ++ [digitChar (number % base)]

/-- The decimal digits of a natural number, as text. -/
def decimal (number : Nat) : List Char :=
  (toString number).toList

end RoguePilot.Numeral
