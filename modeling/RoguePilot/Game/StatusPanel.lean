import RoguePilot.Game.Snapshot
import RoguePilot.Screen.Basic
import RoguePilot.Text.DecimalDigit
import RoguePilot.Text.Search

/-!
# The status panel

The status panel fills the top right of the screen while the game shows its main screen. Its text is
recognised by four labels in their order; then every field is read from the leftmost place where its
label is followed by a value of the right form. A value that is no number of the game is not tried again
further right. What the panel does not show is carried over from the snapshot before, the noise bar
excepted: it shrinks to nothing when all is quiet.
-/

namespace RoguePilot.StatusPanel

open Text

/-! ## The panel on the screen -/

/-- The top left corner of the panel. -/
def near : Position := ⟨0, 37⟩

/-- The bottom right corner of the panel. -/
def far : Position := ⟨8, 79⟩

/-- The lines of the panel, each followed by a newline. -/
def text (screen : Screen) : List Char :=
  screen.regionText near far

/-- The labels by which the panel is recognised, with something between each and the next. -/
def landmarks : List (List Char) :=
  ["Health:".toList, "Magic:".toList, "AC:".toList, "Str:".toList]

/-- The panel is drawn. -/
def isShown (screen : Screen) : Bool :=
  inOrder 1 landmarks (text screen)

/-! ## The forms of values -/

/-- The text after the spaces at its start. -/
def skipSpaces (text : List Char) : List Char :=
  text.dropWhile (· = ' ')

/-- The digits after any spaces, and the text after them; there is at least one digit. -/
def digits? (text : List Char) : Option (List Char × List Char) :=
  let digits := (skipSpaces text).takeWhile isDecimalDigit
  if digits.isEmpty then none else some (digits, (skipSpaces text).dropWhile isDecimalDigit)

/-- The greatest number the game shows. -/
def greatestNumber : Nat := 2147483647

/-- The number that digits stand for, if they are ASCII digits and it is not too great. -/
def number? (digits : List Char) : Option Int :=
  (Numeral.decimalUpTo? greatestNumber digits).map Int.ofNat

/-- The form of a single number: spaces and digits. -/
def oneForm (text : List Char) : Option (List Char) :=
  (digits? text).map Prod.fst

/-- The form of a pair: spaces, digits, a slash, digits. -/
def slashForm (text : List Char) : Option (List Char × List Char) :=
  (digits? text).bind fun first =>
    match first.2 with
    | '/' :: rest =>
      let second := rest.takeWhile isDecimalDigit
      if second.isEmpty then none else some (first.1, second)
    | _ => none

/-- The form of the experience: a number, the label of the way to the next level, a number. -/
def experienceForm (text : List Char) : Option (List Char × List Char) :=
  (digits? text).bind fun first =>
    (dropWord "Next:".toList (skipSpaces first.2)).bind fun rest =>
      (oneForm rest).map fun second => (first.1, second)

/-- The characters of a value after any spaces; there is at least one. -/
def wordForm (belongs : Char → Bool) (text : List Char) : Option (List Char) :=
  let word := (skipSpaces text).takeWhile belongs
  if word.isEmpty then none else some word

/-- A character of a time: a decimal digit or a point. -/
def isTimeCharacter (character : Char) : Bool :=
  isDecimalDigit character || character = '.'

/-- A character of a place: an ASCII letter or digit, or a colon. -/
def isPlaceCharacter (character : Char) : Bool :=
  character.isAlphanum || character = ':'

/-- The bar after any spaces, which may be empty. -/
def barForm (text : List Char) : Option (List Char) :=
  some ((skipSpaces text).takeWhile (· = '='))

/-! ## Fields -/

/-- The number after a label. -/
def one? (label : String) (text : List Char) : Option Int :=
  (readAfter label.toList oneForm text).bind number?

/-- Both numbers of a pair, or neither. -/
def two? (digits : Option (List Char × List Char)) : Option (Int × Int) :=
  digits.bind fun pair =>
    (number? pair.1).bind fun first => (number? pair.2).map fun second => (first, second)

/-- What a text of the panel shows, whatever was known before. -/
structure Reading where
  /-- Health and the greatest health. -/
  health : Option (Int × Int)
  /-- Magic and the greatest magic. -/
  magic : Option (Int × Int)
  /-- The experience level and the way to the next one. -/
  experience : Option (Int × Int)
  /-- Protection by armour. -/
  armourClass : Option Int
  /-- Skill in dodging. -/
  evasion : Option Int
  /-- Protection by a shield. -/
  shielding : Option Int
  /-- Strength. -/
  strength : Option Int
  /-- Intelligence. -/
  intelligence : Option Int
  /-- Dexterity. -/
  dexterity : Option Int
  /-- The time in the game. -/
  gameTime : Option Binary64
  /-- Where the character is. -/
  place : Option String
  /-- The length of the noise bar, zero if there is none. -/
  noiseLevel : Int
deriving DecidableEq, Repr

/-- Reads every field from the text of the panel without its line ends. -/
def Reading.of (text : List Char) : Reading where
  health := two? (readAfter "Health:".toList slashForm text)
  magic := two? (readAfter "Magic:".toList slashForm text)
  experience := two? (readAfter "XL:".toList experienceForm text)
  armourClass := one? "AC:" text
  evasion := one? "EV:" text
  shielding := one? "SH:" text
  strength := one? "Str:" text
  intelligence := one? "Int:" text
  dexterity := one? "Dex:" text
  gameTime := (readAfter "Time:".toList (wordForm isTimeCharacter) text).bind Binary64.read?
  place := (readAfter "Place:".toList (wordForm isPlaceCharacter) text).map String.ofList
  noiseLevel := ((readAfter "Noise:".toList barForm text).map List.length).getD 0

/-- The snapshot after a reading: what is not shown stays as it was. -/
def Reading.over (reading : Reading) (previous : Snapshot) : Snapshot :=
  let health := reading.health.getD (previous.health, previous.maxHealth)
  let magic := reading.magic.getD (previous.magic, previous.maxMagic)
  let experience := reading.experience.getD (previous.experienceLevel, previous.percentToNextLevel)
  { previous with
    onMainScreen := true
    started := previous.started || health.2 ≠ 0
    health := health.1
    maxHealth := health.2
    magic := magic.1
    maxMagic := magic.2
    experienceLevel := experience.1
    percentToNextLevel := experience.2
    armourClass := reading.armourClass.getD previous.armourClass
    evasion := reading.evasion.getD previous.evasion
    shielding := reading.shielding.getD previous.shielding
    strength := reading.strength.getD previous.strength
    intelligence := reading.intelligence.getD previous.intelligence
    dexterity := reading.dexterity.getD previous.dexterity
    gameTime := reading.gameTime.getD previous.gameTime
    place := reading.place.getD previous.place
    noiseLevel := reading.noiseLevel }

/-- The snapshot after a text of the panel, given without its line ends. -/
def snapshotOfText (text : List Char) (previous : Snapshot) : Snapshot :=
  (Reading.of text).over previous

/-- The snapshot after a redraw. Off the main screen nothing else changes. -/
def snapshot (screen : Screen) (previous : Snapshot) : Snapshot :=
  if isShown screen then snapshotOfText (without '\n' (text screen)) previous
  else { previous with onMainScreen := false }

end RoguePilot.StatusPanel
