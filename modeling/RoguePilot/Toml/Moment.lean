import RoguePilot.Number.Numeral

/-!
# Dates and times

The form of dates and times in a document: a date, a time of day, or both, in which case an offset may
follow. Months have their days, February as many as its year gives it, and a minute may have a leap
second.
-/

namespace RoguePilot.Toml.Moment

/-- Reads a number of exactly so many digits within bounds, and yields what follows it. -/
def number? (digits least greatest : Nat) (text : List Char) : Option (Nat × List Char) :=
  if (text.take digits).length = digits then
    ((Numeral.value? 10 (text.take digits)).filter fun value =>
      least ≤ value && value ≤ greatest).map fun value => (value, text.drop digits)
  else none

/-- What follows the given character at the start of the text. -/
def after? (expected : Char) : List Char → Option (List Char)
  | [] => none
  | character :: rest => if character = expected then some rest else none

/-- A year of the proleptic calendar has a leap day. -/
def isLeapYear (year : Nat) : Bool :=
  year % 4 = 0 && (year % 100 ≠ 0 || year % 400 = 0)

/-- The number of days in a month of a year. -/
def daysIn (year month : Nat) : Nat :=
  if month = 2 then if isLeapYear year then 29 else 28
  else if month = 4 ∨ month = 6 ∨ month = 9 ∨ month = 11 then 30
  else 31

/-- Reads a date and yields what follows it. -/
def date? (text : List Char) : Option (List Char) := do
  let (year, text) ← number? 4 0 9999 text
  let text ← after? '-' text
  let (month, text) ← number? 2 1 12 text
  let text ← after? '-' text
  let (_, text) ← number? 2 1 (daysIn year month) text
  return text

/-- Skips the fraction of a second, which has at least one digit. -/
def fraction? : List Char → Option (List Char)
  | '.' :: rest =>
    if (rest.takeWhile Char.isDigit).isEmpty then none else some (rest.dropWhile Char.isDigit)
  | text => some text

/-- Reads a time of day and yields what follows it. -/
def time? (text : List Char) : Option (List Char) := do
  let (_, text) ← number? 2 0 23 text
  let text ← after? ':' text
  let (_, text) ← number? 2 0 59 text
  let text ← after? ':' text
  let (_, text) ← number? 2 0 60 text
  fraction? text

/-- Reads an offset, if there is one, and yields what follows it. -/
def offset? (text : List Char) : Option (List Char) :=
  match text with
  | 'Z' :: rest => some rest
  | 'z' :: rest => some rest
  | sign :: rest =>
    if sign = '+' ∨ sign = '-' then do
      let (_, rest) ← number? 2 0 23 rest
      let rest ← after? ':' rest
      let (_, rest) ← number? 2 0 59 rest
      return rest
    else some (sign :: rest)
  | [] => some []

/-- The text is a date. -/
def isDate (text : List Char) : Bool :=
  date? text = some []

/-- The text is a time of day. -/
def isTime (text : List Char) : Bool :=
  time? text = some []

/-- The character may stand between a date and a time. -/
def isSeparator (character : Char) : Bool :=
  character = 'T' || character = 't' || character = ' '

/-- The text is a date, a separator and a time of day, perhaps with an offset. -/
def isDateTime (text : List Char) : Bool :=
  match date? text with
  | some (separator :: rest) =>
    isSeparator separator && (((time? rest).bind offset?) = some [])
  | _ => false

/-- The text is a date, a time of day, or both. -/
def isMoment (text : List Char) : Bool :=
  isDate text || isTime text || isDateTime text

end RoguePilot.Toml.Moment
