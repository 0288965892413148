import RoguePilot.Toml.Moment
import RoguePilot.Toml.Value

/-!
# Words

A value that is neither quoted nor bracketed is a word: a truth value, a date or time, an integer in one
of four bases, or a floating-point number. Digits may be grouped by single underscores.
-/

namespace RoguePilot.Toml.Word

/-- The character belongs to a word. -/
def belongs (character : Char) : Bool :=
  character.isAlphanum || character = '_' || character = '+' || character = '-' ||
    character = '.' || character = ':'

/-- Reads grouped digits; an underscore stands between two digits. -/
def extend? (base : Nat) : (afterDigit : Bool) → (value : Nat) → List Char → Option Nat
  | afterDigit, value, [] => if afterDigit then some value else none
  | afterDigit, value, character :: rest =>
    if character = '_' then if afterDigit then extend? base false value rest else none
    else
      match Numeral.digit? base character with
      | some digit => extend? base true (value * base + digit) rest
      | none => none

/-- The value of grouped digits. -/
def digits? (base : Nat) (word : List Char) : Option Nat :=
  extend? base false 0 word

/-- The value of grouped decimal digits without a needless zero in front. -/
def whole? (word : List Char) : Option Nat :=
  match word with
  | '0' :: _ :: _ => none
  | _ => digits? 10 word

/-- A word without its sign, and whether that is a minus. -/
def unsigned : List Char → Bool × List Char
  | '-' :: rest => (true, rest)
  | '+' :: rest => (false, rest)
  | word => (false, word)

/-- The integer a word stands for, without regard to its range. -/
def integer? (word : List Char) : Option Int :=
  match word with
  | '0' :: 'x' :: rest => (digits? 16 rest).map Int.ofNat
  | '0' :: 'o' :: rest => (digits? 8 rest).map Int.ofNat
  | '0' :: 'b' :: rest => (digits? 2 rest).map Int.ofNat
  | _ =>
    let (negative, rest) := unsigned word
    (whole? rest).map fun value => if negative then -(value : Int) else value

/-- The integer fits into sixty-four bits. -/
def fits (number : Int) : Bool :=
  -0x8000000000000000 ≤ number && number < 0x8000000000000000

/-- The exponent of a floating-point number, after its letter. -/
def exponent? (word : List Char) : Option Int :=
  let (negative, rest) := unsigned word
  (digits? 10 rest).map fun value => if negative then -(value : Int) else value

/-- The number with the other sign. -/
def negated (number : Binary64) : Binary64 :=
  ⟨number.bits ^^^ 0x8000000000000000⟩

/-- An exponent beyond which a number with so many digits is zero or infinite anyway. -/
def boundedExponent (digits : Nat) (exponent : Int) : Int :=
  max (-(400 + digits : Int)) (min exponent (400 + digits))

/-- The letter that introduces an exponent. -/
def isExponentMark (character : Char) : Bool :=
  character = 'e' || character = 'E'

/-- The digits after the point of an unsigned number; a point must be followed by some. -/
def fraction? : List Char → Option (List Char)
  | [] => some []
  | '.' :: digits => if (digits? 10 digits).isSome then some (digits.filter (· ≠ '_')) else none
  | _ => none

/-- The exponent at the end of an unsigned number, zero if there is none. -/
def exponentPart? : List Char → Option Int
  | [] => some 0
  | _ :: digits => exponent? digits

/-- The floating-point number an unsigned word stands for. It has a fraction, an exponent or both. -/
def magnitude? (word : List Char) : Option Binary64 := do
  let mantissa := word.takeWhile fun character => !isExponentMark character
  let exponentText := word.dropWhile fun character => !isExponentMark character
  let wholeText := mantissa.takeWhile (· ≠ '.')
  let fractionText := mantissa.dropWhile (· ≠ '.')
  let _ ← whole? wholeText
  let fraction ← fraction? fractionText
  let exponent ← exponentPart? exponentText
  if fractionText.isEmpty && exponentText.isEmpty then none
  else
    let digits ← digits? 10 (wholeText ++ fraction)
    return Binary64.ofDecimal digits
      (boundedExponent mantissa.length exponent - fraction.length)

/-- The floating-point number a word stands for. -/
def float? (word : List Char) : Option Binary64 :=
  let (negative, rest) := unsigned word
  let magnitude? :=
    if rest = "inf".toList then some Binary64.infinity
    else if rest = "nan".toList then some ⟨0x7FF8000000000000⟩
    else magnitude? rest
  magnitude?.map fun magnitude => if negative then negated magnitude else magnitude

/-- The word names infinity. -/
def namesInfinity (word : List Char) : Bool :=
  (unsigned word).2 = "inf".toList

/-- The value of a word. A floating-point number that is too great is refused, a negative one is not. -/
def value (word : List Char) : Except Fault Value :=
  if word = "true".toList then .ok (.boolean true)
  else if word = "false".toList then .ok (.boolean false)
  else if Moment.isMoment word then .ok (.moment (String.ofList word))
  else
    match integer? word with
    | some number => if fits number then .ok (.integer number) else .error (.numberTooGreat word)
    | none =>
      match float? word with
      | some number =>
        if number = .infinity && !namesInfinity word then .error (.numberTooGreat word)
        else .ok (.float number)
      | none => .error (.badWord word)

/-- Splits a word off a text. A date and a time may be separated by a single space. -/
def split (text : List Char) : List Char × List Char :=
  let word := text.takeWhile belongs
  let rest := text.dropWhile belongs
  match rest with
  | ' ' :: digit :: _ =>
    if Moment.isDate word && digit.isDigit then
      (word ++ ' ' :: (rest.drop 1).takeWhile belongs, (rest.drop 1).dropWhile belongs)
    else (word, rest)
  | _ => (word, rest)

/-- Reads a word and yields its value and what follows it. -/
def read (text : List Char) : Except Fault (Value × List Char) :=
  let (word, rest) := split text
  if word.isEmpty then .error (.unexpected text)
  else (value word).map fun read => (read, rest)

end RoguePilot.Toml.Word
