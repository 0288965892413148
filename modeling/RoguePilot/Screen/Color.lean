/-!
# Colours

The console palette has sixteen hues, eight of normal intensity followed by their bright variants. A
terminal cell may also leave its colour to the terminal.
-/

namespace RoguePilot

/-- One of the sixteen hues of the console palette, in palette order. -/
inductive Hue where
  | black | red | green | brown | blue | magenta | cyan | lightGray
  | darkGray | lightRed | lightGreen | yellow | lightBlue | lightMagenta | lightCyan | white
deriving DecidableEq, Repr, Inhabited

namespace Hue

/-- The hues in palette order. -/
def palette : List Hue :=
  [.black, .red, .green, .brown, .blue, .magenta, .cyan, .lightGray,
   .darkGray, .lightRed, .lightGreen, .yellow, .lightBlue, .lightMagenta, .lightCyan, .white]

/-- The hue with the given palette index. -/
def ofIndex? (index : Nat) : Option Hue :=
  palette[index]?

/-- The bright variant of a hue of normal intensity; a bright hue stays as it is. -/
def brighten : Hue → Hue
  | .black => .darkGray
  | .red => .lightRed
  | .green => .lightGreen
  | .brown => .yellow
  | .blue => .lightBlue
  | .magenta => .lightMagenta
  | .cyan => .lightCyan
  | .lightGray => .white
  | bright => bright

end Hue

/-- The colour of a terminal cell. -/
inductive Color where
  /-- The terminal's own colour. -/
  | standard
  /-- A hue of the palette. -/
  | hue (shade : Hue)
deriving DecidableEq, Repr, Inhabited

namespace Color

/-- The bright variant of a palette colour; the terminal's own colour stays as it is. -/
def brighten : Color → Color
  | .standard => .standard
  | .hue shade => .hue shade.brighten

/-- The hue that is shown when the terminal's own colour is the given one. -/
def resolve (own : Hue) : Color → Hue
  | .standard => own
  | .hue shade => shade

end Color

end RoguePilot
