import RoguePilot.Terminal.Interpreter

/-!
# The terminal on guarded machine numbers

The terminal works on natural numbers, whose subtraction stops at zero, and on lists, whose
operations accept any position. This file runs the same commands under the rules of a machine:
numbers have sixteen bits, a list is read, shortened and extended only at positions it has, and
lines and cells move one at a time. Whatever breaks a bound is a fault and ends the run.
-/

namespace RoguePilot.Terminal

/-- Why a guarded run has ended early. -/
inductive Fault where
  /-- A list was accessed at a position it does not have. -/
  | position
  /-- A number left the range of its sixteen bits. -/
  | range
deriving DecidableEq, Repr

/-- A value, unless a bound was broken on the way. -/
abbrev Guarded (α : Type) : Type := Except Fault α

namespace Guarded

variable {α : Type}

/-! ## Numbers -/

/-- The greatest number of sixteen bits. -/
def greatestWord : Nat := 65535

/-- The sum, which must not exceed sixteen bits. -/
def add (left right : Nat) : Guarded Nat :=
  if left + right ≤ greatestWord then .ok (left + right) else .error .range

/-- The difference, which must not be negative. -/
def sub (left right : Nat) : Guarded Nat :=
  if right ≤ left then .ok (left - right) else .error .range

/-- The sum, or the greatest number if the sum exceeds it. -/
def addCapped (left right : Nat) : Nat :=
  min (left + right) greatestWord

/-- The product, or the greatest number if the product exceeds it. -/
def mulCapped (left right : Nat) : Nat :=
  min (left * right) greatestWord

/-! ## Lists -/

/-- Changes the entry at a position of the list. -/
def modify (position : Nat) (change : α → Guarded α) (entries : List α) : Guarded (List α) :=
  match entries[position]? with
  | none => .error .position
  | some entry => do return entries.set position (← change entry)

/-- Removes the entry at a position of the list. -/
def remove (position : Nat) (entries : List α) : Guarded (List α) :=
  if position < entries.length then .ok (entries.eraseIdx position) else .error .position

/-- Inserts an entry at a position of the list or right behind its end. -/
def insert (position : Nat) (entry : α) (entries : List α) : Guarded (List α) :=
  if position ≤ entries.length then .ok (entries.insertIdx position entry) else .error .position

/-- Changes every entry from the first position up to the one before `stop`. -/
def mapRange (first stop : Nat) (change : α → α) (entries : List α) : Guarded (List α) :=
  if first ≤ stop ∧ stop ≤ entries.length then
    .ok (entries.take first ++ ((entries.take stop).drop first).map change ++ entries.drop stop)
  else .error .position

/-- Carries out a step a number of times. -/
def iterate (step : α → Guarded α) : Nat → α → Guarded α
  | 0, value => .ok value
  | count + 1, value => do iterate step count (← step value)

/-- A line of the same width without content. -/
def cleared (row : Row) : Row :=
  row.map fun _ => Cell.blank

/-! ## Commands -/

/-- Changes the line of the cursor. -/
def modifyRow (terminal : Terminal) (change : Row → Guarded Row) : Guarded Terminal := do
  return terminal.withLines (← modify terminal.row change terminal.screen.lines)

/-- Moves the cursor, cut to the screen. -/
def moveTo (terminal : Terminal) (row column : Nat) : Guarded Terminal := do
  let lastRow ← sub terminal.size.rows 1
  let lastColumn ← sub terminal.size.columns 1
  return { terminal with
    cursor :=
      { terminal.cursor with
        position := ⟨min row lastRow, min column lastColumn⟩
        wrapPending := false } }

/-- Moves the cursor to the next multiple of eight columns. -/
def tab (terminal : Terminal) : Guarded Terminal := do
  let stop ← add (terminal.column / 8) 1
  moveTo terminal terminal.row (mulCapped stop 8)

/-- Moves the lines from `first` to `last` up, one line at a time. -/
def pullLines (terminal : Terminal) (first last count : Nat) : Guarded Terminal := do
  let height ← add (← sub last first) 1
  let step (lines : List Row) : Guarded (List Row) := do
    insert last terminal.blankRow (← remove first lines)
  return terminal.withLines (← iterate step (min count height) terminal.screen.lines)

/-- Moves the lines from `first` to `last` down, one line at a time. -/
def pushLines (terminal : Terminal) (first last count : Nat) : Guarded Terminal := do
  let height ← add (← sub last first) 1
  let step (lines : List Row) : Guarded (List Row) := do
    insert first terminal.blankRow (← remove last lines)
  return terminal.withLines (← iterate step (min count height) terminal.screen.lines)

/-- Moves the lines of the region up. -/
def scrollUp (terminal : Terminal) (count : Nat) : Guarded Terminal :=
  pullLines terminal terminal.region.top terminal.region.bottom count

/-- Moves the lines of the region down. -/
def scrollDown (terminal : Terminal) (count : Nat) : Guarded Terminal :=
  pushLines terminal terminal.region.top terminal.region.bottom count

/-- One line down; on the last line of the region its lines move up instead. -/
def index (terminal : Terminal) : Guarded Terminal :=
  let settled := terminal.settle
  if settled.row = settled.region.bottom then scrollUp settled 1
  else do
    let lastRow ← sub settled.size.rows 1
    if settled.row < lastRow then return settled.inRow (← add settled.row 1)
    else return settled

/-- One line up; on the first line of the region its lines move down instead. -/
def reverseIndex (terminal : Terminal) : Guarded Terminal :=
  let settled := terminal.settle
  if settled.row = settled.region.top then scrollDown settled 1
  else if 0 < settled.row then do return settled.inRow (← sub settled.row 1)
  else return settled

/-- The first column of the next line. -/
def nextLine (terminal : Terminal) : Guarded Terminal :=
  index terminal.toFirstColumn

/-- A line feed, with the carriage returned if the mode asks for it. -/
def lineFeed (terminal : Terminal) : Guarded Terminal :=
  if terminal.modes.lineFeedNewLine then nextLine terminal else index terminal

/-- Writes a glyph into the cell under the cursor. -/
def write (terminal : Terminal) (glyph : Char) : Guarded Terminal :=
  modifyRow terminal fun row =>
    modify terminal.column (fun _ => .ok ⟨glyph, terminal.style⟩) row

/-- Moves on after a cell was written. -/
def advance (terminal : Terminal) : Guarded Terminal := do
  let next ← add terminal.column 1
  if next < terminal.size.columns then
    return { terminal with
      cursor :=
        { terminal.cursor with position := { terminal.cursor.position with column := next } } }
  else if terminal.modes.autoWrap then
    return { terminal with cursor := { terminal.cursor with wrapPending := true } }
  else return terminal

/-- Prints a character that takes a cell. -/
def print (terminal : Terminal) (glyph : Char) : Guarded Terminal :=
  if Text.takesCell glyph then do
    let placed ← if terminal.cursor.wrapPending then nextLine terminal else .ok terminal
    advance (← write placed glyph)
  else .ok terminal

/-- Blanks part of the line of the cursor. -/
def eraseLine (terminal : Terminal) (extent : Extent) : Guarded Terminal :=
  modifyRow terminal fun row =>
    match extent with
    | .toEnd => mapRange terminal.column row.length (fun _ => Cell.blank) row
    | .toCursor => mapRange 0 (terminal.column + 1) (fun _ => Cell.blank) row
    | .all => mapRange 0 row.length (fun _ => Cell.blank) row

/-- Blanks every cell of the lines from the first one up to the one before `stop`. -/
def clearLines (terminal : Terminal) (first stop : Nat) : Guarded Terminal := do
  return terminal.withLines (← mapRange first stop cleared terminal.screen.lines)

/-- Blanks part of the screen. -/
def eraseDisplay (terminal : Terminal) : Extent → Guarded Terminal
  | .toEnd => do
    let erased ← eraseLine terminal .toEnd
    clearLines erased (terminal.row + 1) erased.screen.lines.length
  | .toCursor => do eraseLine (← clearLines terminal 0 terminal.row) .toCursor
  | .all => do moveTo (← clearLines terminal 0 terminal.screen.lines.length) 0 0

/-- Inserts blank lines at the cursor. -/
def insertLines (terminal : Terminal) (count : Nat) : Guarded Terminal :=
  if terminal.region.contains terminal.row then do
    let moved ← pushLines terminal terminal.row terminal.region.bottom count
    moveTo moved terminal.row 0
  else .ok terminal

/-- Deletes lines at the cursor. -/
def deleteLines (terminal : Terminal) (count : Nat) : Guarded Terminal :=
  if terminal.region.contains terminal.row then do
    let moved ← pullLines terminal terminal.row terminal.region.bottom count
    moveTo moved terminal.row 0
  else .ok terminal

/-- Inserts blank cells at the cursor, one at a time, each pushing out the last cell. -/
def insertCells (terminal : Terminal) (count : Nat) : Guarded Terminal :=
  modifyRow terminal fun row => do
    let room ← sub row.length terminal.column
    let step (row : Row) : Guarded Row := insert terminal.column Cell.blank row.dropLast
    iterate step (min count room) row

/-- Deletes cells at the cursor, one at a time, each making room for a blank last cell. -/
def deleteCells (terminal : Terminal) (count : Nat) : Guarded Terminal :=
  modifyRow terminal fun row => do
    let room ← sub row.length terminal.column
    let step (row : Row) : Guarded Row := do return (← remove terminal.column row) ++ [Cell.blank]
    iterate step (min count room) row

/-- Blanks cells from the cursor on without moving any. -/
def eraseCells (terminal : Terminal) (count : Nat) : Guarded Terminal :=
  modifyRow terminal fun row =>
    mapRange terminal.column (min (terminal.column + count) row.length) (fun _ => Cell.blank) row

/-- Restricts scrolling to some lines, if they are at least two, and sends the cursor home. -/
def setRegion (terminal : Terminal) (top bottom : Nat) : Guarded Terminal := do
  let lastRow ← sub terminal.size.rows 1
  let region : Region := ⟨min (top - 1) lastRow, min (bottom - 1) lastRow⟩
  moveTo (if region.top < region.bottom then { terminal with region } else terminal) 0 0

/-- Returns to the saved position and style, if there are any. -/
def restoreCursor (terminal : Terminal) : Guarded Terminal :=
  match terminal.cursor.saved with
  | none => .ok terminal
  | some saved => do
    return { ← moveTo terminal saved.position.row saved.position.column with style := saved.style }

/-- Turns a switch on or off. -/
def set (terminal : Terminal) : Switch → Bool → Guarded Terminal
  | .otherScreen, true => eraseDisplay terminal .all
  | .keptCursor, false => restoreCursor terminal
  | .otherScreenKeepingCursor, true => eraseDisplay terminal.saveCursor .all
  | .otherScreenKeepingCursor, false => restoreCursor terminal
  | switch, on => .ok (terminal.set switch on)

/-- A terminal as switched on. -/
def start (size : Size) : Guarded Terminal := do
  let bottom ← sub size.atLeastOne.rows 1
  return { Terminal.start size with region := ⟨0, bottom⟩ }

/-- The terminal after a command. -/
def apply (terminal : Terminal) : Command → Guarded Terminal
  | .print glyph => print terminal glyph
  | .carriageReturn => moveTo terminal terminal.row 0
  | .lineFeed => lineFeed terminal
  | .index => index terminal
  | .reverseIndex => reverseIndex terminal
  | .nextLine => nextLine terminal
  | .backspace => moveTo terminal terminal.row (terminal.column - 1)
  | .tab => tab terminal
  | .scrollUp count => scrollUp terminal count
  | .scrollDown count => scrollDown terminal count
  | .cursorUp count => moveTo terminal (terminal.row - count) terminal.column
  | .cursorDown count => moveTo terminal (addCapped terminal.row count) terminal.column
  | .cursorForward count => moveTo terminal terminal.row (addCapped terminal.column count)
  | .cursorBackward count => moveTo terminal terminal.row (terminal.column - count)
  | .setPosition row column => moveTo terminal (row - 1) (column - 1)
  | .setColumn column => moveTo terminal terminal.row (column - 1)
  | .setRow row => moveTo terminal (row - 1) terminal.column
  | .eraseDisplay extent => eraseDisplay terminal extent
  | .eraseLine extent => eraseLine terminal extent
  | .insertLines count => insertLines terminal count
  | .deleteLines count => deleteLines terminal count
  | .insertCells count => insertCells terminal count
  | .deleteCells count => deleteCells terminal count
  | .eraseCells count => eraseCells terminal count
  | .setRegion top bottom => setRegion terminal top bottom
  | .saveCursor => .ok terminal.saveCursor
  | .restoreCursor => restoreCursor terminal
  | .set switch on => set terminal switch on
  | .restyle change => .ok { terminal with style := change.apply terminal.style }
  | .reset => start terminal.size

/-- The terminal after commands carried out in order. -/
def applyAll (terminal : Terminal) : List Command → Guarded Terminal
  | [] => .ok terminal
  | command :: commands => do applyAll (← apply terminal command) commands

/-! ## Interpreting output -/

/-- The hue at an offset from the code of the first one of its kind. -/
def hueFrom (first code : Nat) : Guarded (Option Hue) := do
  return Hue.ofIndex? (← sub code first)

/-- The bright hue at an offset from the code of the first bright one of its kind. -/
def brightHueFrom (first code : Nat) : Guarded (Option Hue) := do
  return Hue.ofIndex? (← add (← sub code first) 8)

/-- The style change of a number that stands alone. -/
def single (code : Nat) : Guarded (Option Restyle) :=
  if code = 0 then .ok (some .plain)
  else if code = 1 then .ok (some (.bold true))
  else if code = 22 then .ok (some (.bold false))
  else if 30 ≤ code ∧ code ≤ 37 then do
    return (← hueFrom 30 code).map fun hue => .foreground (.hue hue)
  else if code = 39 then .ok (some (.foreground .standard))
  else if 40 ≤ code ∧ code ≤ 47 then do
    return (← hueFrom 40 code).map fun hue => .background (.hue hue)
  else if code = 49 then .ok (some (.background .standard))
  else if 90 ≤ code ∧ code ≤ 97 then do
    return (← brightHueFrom 90 code).map fun hue => .foreground (.hue hue)
  else if 100 ≤ code ∧ code ≤ 107 then do
    return (← brightHueFrom 100 code).map fun hue => .background (.hue hue)
  else .ok none

/-- The style changes of a list of numbers. -/
def changes : List Nat → Guarded (List Restyle)
  | [] => .ok []
  | code :: codes =>
      match Rendition.introduced? code with
      | some place => do
        let later ← changes (Rendition.extended codes).2
        return ((Rendition.extended codes).1.map place).toList ++ later
      | none => do
        let change ← single code
        let later ← changes codes
        return change.toList ++ later
termination_by codes => codes.length
decreasing_by
  · exact Nat.lt_succ_of_le (Rendition.length_extended codes)
  · simp

/-- The commands of a complete control sequence. -/
def sequenceCommands (dialect : Dialect) (final : Char) (numbers : List Nat) :
    Guarded (List Command) :=
  if dialect = .standard ∧ final = 'm' ∧ numbers ≠ [] then do
    return (← changes numbers).map .restyle
  else .ok (Terminal.sequenceCommands dialect final numbers)

/-- The digit a character stands for, if it is an ASCII digit. -/
def digit (character : Char) : Guarded (Option Nat) :=
  if character.isDigit then do return some (← sub character.toNat '0'.toNat) else .ok none

/-- A parameter with one more digit. -/
def extendParameter (parameter digit : Nat) : Nat :=
  addCapped (mulCapped parameter 10) digit

/-- Reads a character after the introducer and marks. -/
def afterEntry (dialect : Dialect) (character : Char) :
    Guarded (Interpreter × List Command) := do
  match ← digit character with
  | some digit => return (.parameters dialect [] (some digit), [])
  | none =>
      if character = ';' then return (.parameters dialect [0] none, [])
      else if Interpreter.isMark character then return (.entry (dialect.mark character), [])
      else if Interpreter.isIntermediate character then
        return (.intermediate (dialect.mark character) [], [])
      else if Interpreter.isFinal character then
        return (.ground, ← sequenceCommands dialect character [])
      else return (.ground, [])

/-- Reads a character after parameters. -/
def afterParameters (dialect : Dialect) (complete : List Nat) (current : Option Nat)
    (character : Char) : Guarded (Interpreter × List Command) := do
  match ← digit character with
  | some digit =>
      return (.parameters dialect complete (some (extendParameter (current.getD 0) digit)), [])
  | none =>
      if character = ';' || character = ':' then
        return (.parameters dialect (complete ++ [current.getD 0]) none, [])
      else if Interpreter.isIntermediate character then
        return (.intermediate (dialect.mark character)
          (Interpreter.allParameters complete current), [])
      else if Interpreter.isFinal character then
        return (.ground,
          ← sequenceCommands dialect character (Interpreter.allParameters complete current))
      else return (.ground, [])

/-- Reads a character after intermediate characters. -/
def afterIntermediate (dialect : Dialect) (numbers : List Nat) (character : Char) :
    Guarded (Interpreter × List Command) := do
  if Interpreter.isIntermediate character then
    return (.intermediate (dialect.mark character) numbers, [])
  else if Interpreter.isFinal character then
    return (.ground, ← sequenceCommands dialect character numbers)
  else return (.ground, [])

/-- Reads a character that is neither a control character nor padding. -/
def read (interpreter : Interpreter) (character : Char) : Guarded (Interpreter × List Command) :=
  match interpreter with
  | .entry dialect => afterEntry dialect character
  | .parameters dialect complete current => afterParameters dialect complete current character
  | .intermediate dialect numbers => afterIntermediate dialect numbers character
  | other => .ok (other.read character)

/-- Reads one character. -/
def interpret (interpreter : Interpreter) (character : Char) :
    Guarded (Interpreter × List Command) :=
  if Interpreter.isC0 character && !interpreter.inString then
    .ok (interpreter.feed character)
  else if character = '\x7f' then .ok (interpreter, [])
  else read interpreter character

/-- Displays one character. -/
def feed (console : Console) (character : Char) : Guarded Console := do
  let after ← interpret console.interpreter character
  return ⟨after.1, ← applyAll console.terminal after.2⟩

/-- Displays a text. -/
def display (console : Console) : List Char → Guarded Console
  | [] => .ok console
  | character :: text => do display (← feed console character) text

end Guarded

end RoguePilot.Terminal
