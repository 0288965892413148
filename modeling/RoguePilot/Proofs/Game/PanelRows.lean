import RoguePilot.Proofs.Game.FieldPatterns
import RoguePilot.Proofs.Text.LineEnds
import RoguePilot.Terminal.Interpreter

/-!
# Values and the rows of the panel

The fields are read from the text of the panel without its line ends. So a value may be put together from the
end of one row and the beginning of the next one, or be taken from the next row when its own ends with the
label. A value that is read lies within one row just when the text with its line ends shows it as well.
-/

namespace RoguePilot.StatusPanel

open Text

/-! ## Rows -/

/-- The rows of the panel, as far as they are on the screen. -/
def rows (screen : Screen) : List (List Char) :=
  ((screen.lines.take (min far.row (screen.size.rows - 1) + 1)).drop near.row).map fun row =>
    (row.glyphs.take (min far.column (screen.size.columns - 1) + 1)).drop near.column

/-- A field of the panel. -/
structure Field where
  /-- The pattern of its label and value. -/
  pattern : Pattern
  /-- A value was read for it. -/
  isRead : Reading → Bool

/-- The field of the place. -/
def placeField : Field :=
  ⟨runPattern "Place:" isPlaceCharacter, fun reading => reading.place.isSome⟩

/-- The fields of the panel. A bar of noise that is empty counts as none. -/
def fields : List Field :=
  [⟨pairPattern "Health:", fun reading => reading.health.isSome⟩,
    ⟨pairPattern "Magic:", fun reading => reading.magic.isSome⟩,
    ⟨experiencePattern, fun reading => reading.experience.isSome⟩,
    ⟨runPattern "AC:" isDecimalDigit, fun reading => reading.armourClass.isSome⟩,
    ⟨runPattern "EV:" isDecimalDigit, fun reading => reading.evasion.isSome⟩,
    ⟨runPattern "SH:" isDecimalDigit, fun reading => reading.shielding.isSome⟩,
    ⟨runPattern "Str:" isDecimalDigit, fun reading => reading.strength.isSome⟩,
    ⟨runPattern "Int:" isDecimalDigit, fun reading => reading.intelligence.isSome⟩,
    ⟨runPattern "Dex:" isDecimalDigit, fun reading => reading.dexterity.isSome⟩,
    ⟨runPattern "Time:" isTimeCharacter, fun reading => reading.gameTime.isSome⟩,
    placeField,
    ⟨barPattern, fun reading => reading.noiseLevel != 0⟩]

end RoguePilot.StatusPanel
