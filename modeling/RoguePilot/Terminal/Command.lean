import RoguePilot.Terminal.Basic

/-!
# What a terminal can be told to do

Every change to a terminal is one of the commands below, whether it comes from a printed character, from
a control character or from a control sequence. Interpreting output means turning it into commands, and
a terminal is determined by its extent and the commands it has carried out.
-/

namespace RoguePilot.Terminal

/-- One change of the style in force. -/
inductive Restyle where
  /-- Back to the default style. -/
  | plain
  /-- Bold on or off. -/
  | bold (on : Bool)
  /-- The colour of glyphs. -/
  | foreground (color : Color)
  /-- The colour behind glyphs. -/
  | background (color : Color)
deriving DecidableEq, Repr

/-- The style after a change. -/
def Restyle.apply (style : Style) : Restyle → Style
  | .plain => {}
  | .bold on => { style with bold := on }
  | .foreground color => { style with foreground := color }
  | .background color => { style with background := color }

/-- What can be switched on and off. -/
inductive Switch where
  /-- Printing past the last column continues on the next line. -/
  | autoWrap
  /-- Insert mode. -/
  | insert
  /-- A line feed returns the carriage. -/
  | lineFeedNewLine
  /-- The cursor is shown, which does not change the grid. -/
  | cursorShown
  /-- The second screen: there is only one grid, so entering blanks it and leaving keeps it. -/
  | otherScreen
  /-- The cursor is kept on entering and taken back on leaving. -/
  | keptCursor
  /-- The second screen together with the kept cursor. -/
  | otherScreenKeepingCursor
deriving DecidableEq, Repr

/-- The switch with a standard mode number. -/
def Switch.ofMode? : Nat → Option Switch
  | 4 => some .insert
  | 20 => some .lineFeedNewLine
  | _ => none

/-- The switch with a private mode number. -/
def Switch.ofPrivateMode? : Nat → Option Switch
  | 7 => some .autoWrap
  | 25 => some .cursorShown
  | 47 => some .otherScreen
  | 1047 => some .otherScreen
  | 1048 => some .keptCursor
  | 1049 => some .otherScreenKeepingCursor
  | _ => none

/-- The extent with an erase number within a line. -/
def Extent.ofLineCode? : Nat → Option Extent
  | 0 => some .toEnd
  | 1 => some .toCursor
  | 2 => some .all
  | _ => none

/-- The extent with an erase number on the screen; three is as good as two. -/
def Extent.ofDisplayCode? : Nat → Option Extent
  | 3 => some .all
  | code => ofLineCode? code

/-- One change to a terminal. -/
inductive Command where
  | print (glyph : Char)
  | carriageReturn
  | lineFeed
  | index
  | reverseIndex
  | nextLine
  | backspace
  | tab
  | scrollUp (count : Nat)
  | scrollDown (count : Nat)
  | cursorUp (count : Nat)
  | cursorDown (count : Nat)
  | cursorForward (count : Nat)
  | cursorBackward (count : Nat)
  | setPosition (row column : Nat)
  | setColumn (column : Nat)
  | setRow (row : Nat)
  | eraseDisplay (extent : Extent)
  | eraseLine (extent : Extent)
  | insertLines (count : Nat)
  | deleteLines (count : Nat)
  | insertCells (count : Nat)
  | deleteCells (count : Nat)
  | eraseCells (count : Nat)
  | setRegion (top bottom : Nat)
  | saveCursor
  | restoreCursor
  | set (switch : Switch) (on : Bool)
  | restyle (change : Restyle)
  | reset
deriving DecidableEq, Repr

/-- The same terminal with other modes. -/
def withModes (terminal : Terminal) (modes : Modes) : Terminal :=
  { terminal with modes }

/-- Turns a switch on or off. -/
def set (terminal : Terminal) : Switch → Bool → Terminal
  | .autoWrap, on => terminal.withModes { terminal.modes with autoWrap := on }
  | .insert, on => terminal.withModes { terminal.modes with insert := on }
  | .lineFeedNewLine, on => terminal.withModes { terminal.modes with lineFeedNewLine := on }
  | .cursorShown, _ => terminal
  | .otherScreen, true => terminal.eraseDisplay .all
  | .otherScreen, false => terminal
  | .keptCursor, true => terminal.saveCursor
  | .keptCursor, false => terminal.restoreCursor
  | .otherScreenKeepingCursor, true => terminal.saveCursor.eraseDisplay .all
  | .otherScreenKeepingCursor, false => terminal.restoreCursor

/-- The terminal after a command. -/
def apply (terminal : Terminal) : Command → Terminal
  | .print glyph => terminal.print glyph
  | .carriageReturn => terminal.carriageReturn
  | .lineFeed => terminal.lineFeed
  | .index => terminal.index
  | .reverseIndex => terminal.reverseIndex
  | .nextLine => terminal.nextLine
  | .backspace => terminal.backspace
  | .tab => terminal.tab
  | .scrollUp count => terminal.scrollUp count
  | .scrollDown count => terminal.scrollDown count
  | .cursorUp count => terminal.cursorUp count
  | .cursorDown count => terminal.cursorDown count
  | .cursorForward count => terminal.cursorForward count
  | .cursorBackward count => terminal.cursorBackward count
  | .setPosition row column => terminal.setPosition row column
  | .setColumn column => terminal.setColumn column
  | .setRow row => terminal.setRow row
  | .eraseDisplay extent => terminal.eraseDisplay extent
  | .eraseLine extent => terminal.eraseLine extent
  | .insertLines count => terminal.insertLines count
  | .deleteLines count => terminal.deleteLines count
  | .insertCells count => terminal.insertCells count
  | .deleteCells count => terminal.deleteCells count
  | .eraseCells count => terminal.eraseCells count
  | .setRegion top bottom => terminal.setRegion top bottom
  | .saveCursor => terminal.saveCursor
  | .restoreCursor => terminal.restoreCursor
  | .set switch on => terminal.set switch on
  | .restyle change => { terminal with style := change.apply terminal.style }
  | .reset => terminal.reset

/-- The terminal after commands carried out in order. -/
def applyAll (terminal : Terminal) (commands : List Command) : Terminal :=
  commands.foldl apply terminal

@[simp] theorem applyAll_nil (terminal : Terminal) : terminal.applyAll [] = terminal := rfl

@[simp] theorem applyAll_cons (terminal : Terminal) (command : Command) (commands : List Command) :
    terminal.applyAll (command :: commands) = (terminal.apply command).applyAll commands := rfl

@[simp] theorem applyAll_append (terminal : Terminal) (first second : List Command) :
    terminal.applyAll (first ++ second) = (terminal.applyAll first).applyAll second := by
  simp [applyAll, List.foldl_append]

end RoguePilot.Terminal
