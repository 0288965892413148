import RoguePilot.Screen.Cell

/-!
# The screen

The visible grid of a terminal: as many lines as it is high, each as many cells as it is wide. This file
reads the grid: single cells, the text of the whole screen or of a rectangle, and the place of a glyph.
-/

namespace RoguePilot

/-- The extent of a screen. -/
structure Size where
  /-- Cells in a line. -/
  columns : Nat
  /-- Lines on the screen. -/
  rows : Nat
deriving DecidableEq, Repr, Inhabited

/-- The extent with no side below one. -/
def Size.atLeastOne (size : Size) : Size :=
  ⟨max size.columns 1, max size.rows 1⟩

/-- A place on the screen, counted from zero at the top left. -/
structure Position where
  /-- The line. -/
  row : Nat
  /-- The cell in the line. -/
  column : Nat
deriving DecidableEq, Repr, Inhabited

/-- The top left place. -/
def Position.home : Position := ⟨0, 0⟩

/-- The visible grid. -/
structure Screen where
  /-- The extent that the lines fill. -/
  size : Size
  /-- The lines from top to bottom. -/
  lines : List Row
deriving DecidableEq, Repr

namespace Screen

/-- A screen without content. -/
def blank (size : Size) : Screen :=
  ⟨size, List.replicate size.rows (Row.blank size.columns)⟩

/-- The cell at a place of the screen. -/
def cell? (screen : Screen) (position : Position) : Option Cell :=
  screen.lines[position.row]?.bind fun row => row[position.column]?

/-- Every line, each followed by a newline. -/
def linesText (rows : List (List Char)) : List Char :=
  rows.flatMap fun row => row ++ ['\n']

/-- The whole screen as text, each line followed by a newline. -/
def text (screen : Screen) : List Char :=
  linesText (screen.lines.map Row.glyphs)

/--
The text of a rectangle given by its inclusive corners, each line followed by a newline. The far corner is
cut to the screen; a rectangle without columns has empty lines and one without rows has none.
-/
def regionText (screen : Screen) (near far : Position) : List Char :=
  let lastRow := min far.row (screen.size.rows - 1)
  let lastColumn := min far.column (screen.size.columns - 1)
  linesText <|
    ((screen.lines.take (lastRow + 1)).drop near.row).map fun row =>
      (row.glyphs.take (lastColumn + 1)).drop near.column

/-- The first place of a glyph in the lines, from the given row on. -/
def findFrom (glyph : Char) : Nat → List Row → Option Position
  | _, [] => none
  | row, line :: lines =>
    match line.findIdx? fun cell => cell.glyph = glyph with
    | some column => some ⟨row, column⟩
    | none => findFrom glyph (row + 1) lines

/-- The first place of a glyph, line by line from the top. -/
def find? (screen : Screen) (glyph : Char) : Option Position :=
  findFrom glyph 0 screen.lines

/-- The screen as text under a heading with its extent. -/
def describe (screen : Screen) : List Char :=
  "Screen(".toList ++ (toString screen.size.columns).toList ++ 'x' ::
    (toString screen.size.rows).toList ++ ")\n".toList ++ screen.text

end Screen

end RoguePilot
