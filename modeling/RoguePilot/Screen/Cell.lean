import RoguePilot.Screen.Color

/-!
# Cells

A cell shows one glyph in one style. A blank cell is a space in the default style: what is erased or
scrolled in takes the default style, never the one in force.
-/

namespace RoguePilot

/-- How a cell is drawn. -/
structure Style where
  /-- The colour of the glyph. -/
  foreground : Color := .standard
  /-- The colour behind the glyph. -/
  background : Color := .hue .black
  /-- The glyph is drawn in bold. -/
  bold : Bool := false
deriving DecidableEq, Repr, Inhabited

/-- One position of the screen. -/
structure Cell where
  /-- The character shown. -/
  glyph : Char := ' '
  /-- How it is drawn. -/
  style : Style := {}
deriving DecidableEq, Repr, Inhabited

/-- The cell that erasing leaves behind. -/
def Cell.blank : Cell := {}

/-- One line of the screen, from left to right. -/
abbrev Row := List Cell

/-- A line without content. -/
def Row.blank (width : Nat) : Row :=
  List.replicate width Cell.blank

/-- The glyphs of a line. -/
def Row.glyphs (row : Row) : List Char :=
  row.map Cell.glyph

end RoguePilot
