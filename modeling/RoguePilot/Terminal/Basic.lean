import RoguePilot.Screen.Basic
import RoguePilot.Screen.Stretch
import RoguePilot.Text.ZeroWidth

/-!
# The terminal

A terminal is a screen together with what decides where and how the next character is drawn: the cursor,
the style in force, the modes and the scroll region. The operations below never refuse a request; what
points outside the screen is cut to it.

Wrapping is deferred: after the last cell of a line is written the cursor stays on it with a pending wrap,
and only the next printed character moves it to the next line.
-/

namespace RoguePilot

/-- A cursor position and style kept for later. -/
structure SavedCursor where
  /-- Where the cursor was. -/
  position : Position
  /-- The style that was in force. -/
  style : Style
deriving DecidableEq, Repr

/-- The cursor. -/
structure Cursor where
  /-- Where the next character goes. -/
  position : Position := .home
  /-- The last cell of the line has just been written and the wrap is still to come. -/
  wrapPending : Bool := false
  /-- What was saved last. -/
  saved : Option SavedCursor := none
deriving DecidableEq, Repr

/-- The switches of a terminal. -/
structure Modes where
  /-- Printing past the last column continues on the next line. -/
  autoWrap : Bool := true
  /-- Insert mode is remembered, but printing overwrites all the same. -/
  insert : Bool := false
  /-- A line feed also returns the carriage, since nothing else does so for a piped child. -/
  lineFeedNewLine : Bool := true
deriving DecidableEq, Repr

/-- The lines that scrolling moves, from the first to the last one. -/
structure Region where
  /-- The first line. -/
  top : Nat
  /-- The last line. -/
  bottom : Nat
deriving DecidableEq, Repr

/-- The region that covers a screen. -/
def Region.whole (size : Size) : Region :=
  ⟨0, size.rows - 1⟩

/-- The number of lines in a region. -/
def Region.height (region : Region) : Nat :=
  region.bottom + 1 - region.top

/-- The line belongs to the region. -/
def Region.contains (region : Region) (row : Nat) : Bool :=
  region.top ≤ row && row ≤ region.bottom

/-- The state of a terminal. -/
structure Terminal where
  /-- What is visible. -/
  screen : Screen
  /-- Where drawing goes on. -/
  cursor : Cursor
  /-- The style of the next character. -/
  style : Style
  /-- The switches. -/
  modes : Modes
  /-- The scroll region. -/
  region : Region
deriving DecidableEq, Repr

namespace Terminal

/-- A terminal as switched on, with at least one line and one column. -/
def start (size : Size) : Terminal where
  screen := .blank size.atLeastOne
  cursor := {}
  style := {}
  modes := {}
  region := .whole size.atLeastOne

/-- The extent of the screen. -/
def size (terminal : Terminal) : Size :=
  terminal.screen.size

/-- The line of the cursor. -/
def row (terminal : Terminal) : Nat :=
  terminal.cursor.position.row

/-- The column of the cursor. -/
def column (terminal : Terminal) : Nat :=
  terminal.cursor.position.column

/-- The same terminal with other lines. -/
def withLines (terminal : Terminal) (lines : List Row) : Terminal :=
  { terminal with screen := { terminal.screen with lines } }

/-- The same terminal with the line of the cursor changed. -/
def modifyRow (terminal : Terminal) (change : Row → Row) : Terminal :=
  terminal.withLines (terminal.screen.lines.modify terminal.row change)

/-- A blank line of this terminal. -/
def blankRow (terminal : Terminal) : Row :=
  Row.blank terminal.size.columns

/-- Puts everything back as switched on, the extent excepted. -/
def reset (terminal : Terminal) : Terminal :=
  start terminal.size

/-! ## Moving the cursor -/

/-- Moves the cursor, cut to the screen. A pending wrap is forgotten. -/
def moveTo (terminal : Terminal) (row column : Nat) : Terminal :=
  { terminal with
    cursor :=
      { terminal.cursor with
        position := ⟨min row (terminal.size.rows - 1), min column (terminal.size.columns - 1)⟩
        wrapPending := false } }

/-- Moves the cursor to the first column. -/
def carriageReturn (terminal : Terminal) : Terminal :=
  terminal.moveTo terminal.row 0

/-- Moves the cursor one column back. -/
def backspace (terminal : Terminal) : Terminal :=
  terminal.moveTo terminal.row (terminal.column - 1)

/-- Moves the cursor to the next multiple of eight columns. -/
def tab (terminal : Terminal) : Terminal :=
  terminal.moveTo terminal.row ((terminal.column / 8 + 1) * 8)

/-- Moves the cursor up. -/
def cursorUp (terminal : Terminal) (count : Nat) : Terminal :=
  terminal.moveTo (terminal.row - count) terminal.column

/-- Moves the cursor down. -/
def cursorDown (terminal : Terminal) (count : Nat) : Terminal :=
  terminal.moveTo (terminal.row + count) terminal.column

/-- Moves the cursor to the right. -/
def cursorForward (terminal : Terminal) (count : Nat) : Terminal :=
  terminal.moveTo terminal.row (terminal.column + count)

/-- Moves the cursor to the left. -/
def cursorBackward (terminal : Terminal) (count : Nat) : Terminal :=
  terminal.moveTo terminal.row (terminal.column - count)

/-- Moves the cursor to a line and column counted from one; zero counts as one. -/
def setPosition (terminal : Terminal) (row column : Nat) : Terminal :=
  terminal.moveTo (row - 1) (column - 1)

/-- Moves the cursor to a column counted from one. -/
def setColumn (terminal : Terminal) (column : Nat) : Terminal :=
  terminal.moveTo terminal.row (column - 1)

/-- Moves the cursor to a line counted from one. -/
def setRow (terminal : Terminal) (row : Nat) : Terminal :=
  terminal.moveTo (row - 1) terminal.column

/-- Keeps the position and the style of the cursor. -/
def saveCursor (terminal : Terminal) : Terminal :=
  { terminal with
    cursor := { terminal.cursor with saved := some ⟨terminal.cursor.position, terminal.style⟩ } }

/-- Returns to the saved position and style, if there are any. -/
def restoreCursor (terminal : Terminal) : Terminal :=
  match terminal.cursor.saved with
  | none => terminal
  | some saved =>
    { terminal.moveTo saved.position.row saved.position.column with style := saved.style }

/-! ## Scrolling -/

/-- Moves the lines of the region up; blank lines come in at its bottom. -/
def scrollUp (terminal : Terminal) (count : Nat) : Terminal :=
  terminal.withLines <|
    Stretch.pull terminal.region.top terminal.region.bottom count terminal.blankRow
      terminal.screen.lines

/-- Moves the lines of the region down; blank lines come in at its top. -/
def scrollDown (terminal : Terminal) (count : Nat) : Terminal :=
  terminal.withLines <|
    Stretch.push terminal.region.top terminal.region.bottom count terminal.blankRow
      terminal.screen.lines

/-- Forgets a pending wrap. -/
def settle (terminal : Terminal) : Terminal :=
  { terminal with cursor := { terminal.cursor with wrapPending := false } }

/-- Puts the cursor into the given line, with its column and everything else as it is. -/
def inRow (terminal : Terminal) (row : Nat) : Terminal :=
  { terminal with
    cursor := { terminal.cursor with position := { terminal.cursor.position with row } } }

/-- Puts the cursor into the first column; a pending wrap stays pending. -/
def toFirstColumn (terminal : Terminal) : Terminal :=
  { terminal with
    cursor := { terminal.cursor with position := { terminal.cursor.position with column := 0 } } }

/-- One line down; on the last line of the region its lines move up instead. -/
def index (terminal : Terminal) : Terminal :=
  let settled := terminal.settle
  if settled.row = settled.region.bottom then settled.scrollUp 1
  else if settled.row < settled.size.rows - 1 then settled.inRow (settled.row + 1)
  else settled

/-- One line up; on the first line of the region its lines move down instead. -/
def reverseIndex (terminal : Terminal) : Terminal :=
  let settled := terminal.settle
  if settled.row = settled.region.top then settled.scrollDown 1
  else if 0 < settled.row then settled.inRow (settled.row - 1)
  else settled

/-- The first column of the next line. -/
def nextLine (terminal : Terminal) : Terminal :=
  terminal.toFirstColumn.index

/-- A line feed, with the carriage returned if the mode asks for it. -/
def lineFeed (terminal : Terminal) : Terminal :=
  if terminal.modes.lineFeedNewLine then terminal.nextLine else terminal.index

/--
Restricts scrolling to the lines from `top` to `bottom`, counted from one and cut to the screen, if they
are at least two. The cursor goes home in any case.
-/
def setRegion (terminal : Terminal) (top bottom : Nat) : Terminal :=
  let region : Region :=
    ⟨min (top - 1) (terminal.size.rows - 1), min (bottom - 1) (terminal.size.rows - 1)⟩
  let restricted := if region.top < region.bottom then { terminal with region } else terminal
  restricted.moveTo 0 0

/-! ## Printing -/

/-- Writes a glyph into the cell under the cursor. -/
def write (terminal : Terminal) (glyph : Char) : Terminal :=
  terminal.modifyRow fun row => row.set terminal.column ⟨glyph, terminal.style⟩

/-- Moves on after a cell was written: one column, or to a pending wrap on the last one. -/
def advance (terminal : Terminal) : Terminal :=
  if terminal.column + 1 < terminal.size.columns then
    { terminal with
      cursor :=
        { terminal.cursor with
          position := { terminal.cursor.position with column := terminal.column + 1 } } }
  else if terminal.modes.autoWrap then
    { terminal with cursor := { terminal.cursor with wrapPending := true } }
  else terminal

/-- Prints a character that takes a cell; any other character changes nothing. -/
def print (terminal : Terminal) (glyph : Char) : Terminal :=
  if Text.takesCell glyph then
    let placed := if terminal.cursor.wrapPending then terminal.nextLine else terminal
    (placed.write glyph).advance
  else terminal

/-! ## Erasing and editing -/

/-- What is erased, seen from the cursor. -/
inductive Extent where
  /-- From the cursor to the end, the cursor's cell included. -/
  | toEnd
  /-- From the start to the cursor, the cursor's cell included. -/
  | toCursor
  /-- Everything. -/
  | all
deriving DecidableEq, Repr

/-- Blanks part of the line of the cursor. The cursor and a pending wrap stay. -/
def eraseLine (terminal : Terminal) : Extent → Terminal
  | .toEnd =>
    terminal.modifyRow fun row =>
      Stretch.fill terminal.column (row.length - terminal.column) Cell.blank row
  | .toCursor => terminal.modifyRow (Stretch.fill 0 (terminal.column + 1) Cell.blank)
  | .all => terminal.modifyRow fun row => Stretch.fill 0 row.length Cell.blank row

/-- Blanks part of the screen. Blanking all of it also sends the cursor home. -/
def eraseDisplay (terminal : Terminal) : Extent → Terminal
  | .toEnd =>
    let erased := terminal.eraseLine .toEnd
    erased.withLines <|
      Stretch.fill (terminal.row + 1) terminal.size.rows terminal.blankRow erased.screen.lines
  | .toCursor =>
    (terminal.withLines <|
      Stretch.fill 0 terminal.row terminal.blankRow terminal.screen.lines).eraseLine .toCursor
  | .all =>
    (terminal.withLines <|
      Stretch.fill 0 terminal.size.rows terminal.blankRow terminal.screen.lines).moveTo 0 0

/-- Inserts blank lines at the cursor; the lines below it move down within the region. -/
def insertLines (terminal : Terminal) (count : Nat) : Terminal :=
  if terminal.region.contains terminal.row then
    (terminal.withLines <|
      Stretch.push terminal.row terminal.region.bottom count terminal.blankRow
        terminal.screen.lines).carriageReturn
  else terminal

/-- Deletes lines at the cursor; the lines below them move up within the region. -/
def deleteLines (terminal : Terminal) (count : Nat) : Terminal :=
  if terminal.region.contains terminal.row then
    (terminal.withLines <|
      Stretch.pull terminal.row terminal.region.bottom count terminal.blankRow
        terminal.screen.lines).carriageReturn
  else terminal

/-- Inserts blank cells at the cursor; the rest of the line moves to the right. -/
def insertCells (terminal : Terminal) (count : Nat) : Terminal :=
  terminal.modifyRow fun row =>
    Stretch.push terminal.column (row.length - 1) count Cell.blank row

/-- Deletes cells at the cursor; the rest of the line moves to the left. -/
def deleteCells (terminal : Terminal) (count : Nat) : Terminal :=
  terminal.modifyRow fun row =>
    Stretch.pull terminal.column (row.length - 1) count Cell.blank row

/-- Blanks cells from the cursor on without moving any. -/
def eraseCells (terminal : Terminal) (count : Nat) : Terminal :=
  terminal.modifyRow (Stretch.fill terminal.column count Cell.blank)

end Terminal

end RoguePilot
