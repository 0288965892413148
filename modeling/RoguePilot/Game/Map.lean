import RoguePilot.Screen.Basic

/-!
# The map

The map fills the top left of the screen. It is a copy of that part of the screen in the game's own
palette: the terminal's own colour is resolved, and bold stands for the bright half of the palette.
-/

namespace RoguePilot

/-- One place of the map. -/
structure MapCell where
  /-- The character shown. -/
  glyph : Char := ' '
  /-- The hue of the character. -/
  foreground : Hue := .lightGray
  /-- The hue behind the character. -/
  background : Hue := .black
deriving DecidableEq, Repr, Inhabited

/-- A screen cell in the palette of the game. -/
def MapCell.ofCell (cell : Cell) : MapCell where
  glyph := cell.glyph
  foreground :=
    let shown := cell.style.foreground.resolve .lightGray
    if cell.style.bold then shown.brighten else shown
  background := cell.style.background.resolve .black

/-- A rectangle of map cells, kept line by line. -/
structure Map where
  /-- Cells in a line. -/
  width : Nat
  /-- Lines. -/
  height : Nat
  /-- The cells, line by line. -/
  cells : List MapCell
deriving DecidableEq, Repr

namespace Map

/-- The map before anything was drawn. -/
def empty : Map := ⟨0, 0, []⟩

/-- The width of the map on the screen. -/
def screenWidth : Nat := 33

/-- The height of the map on the screen. -/
def screenHeight : Nat := 17

/-- The map drawn on a screen; where the screen ends early, its cells are blank. -/
def ofScreen (screen : Screen) : Map where
  width := screenWidth
  height := screenHeight
  cells :=
    (List.range screenHeight).flatMap fun row =>
      (List.range screenWidth).map fun column =>
        match screen.cell? ⟨row, column⟩ with
        | some cell => .ofCell cell
        | none => {}

/-- The cell in a column and line of the map. -/
def get? (map : Map) (column row : Nat) : Option MapCell :=
  if column < map.width ∧ row < map.height then map.cells[row * map.width + column]? else none

/-- The lines of the map, as many as it is high. -/
def rows (map : Map) : List (List MapCell) :=
  (List.range map.height).map fun row => (map.cells.drop (row * map.width)).take map.width

/-- The column and line of the first cell with the glyph, line by line. -/
def find? (map : Map) (glyph : Char) : Option (Nat × Nat) :=
  (map.cells.findIdx? fun cell => cell.glyph = glyph).map fun index =>
    (index % map.width, index / map.width)

/-- The glyphs of the map, each line followed by a newline. -/
def text (map : Map) : List Char :=
  Screen.linesText (map.rows.map fun row => row.map MapCell.glyph)

end Map

end RoguePilot
