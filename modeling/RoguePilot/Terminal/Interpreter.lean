import RoguePilot.Terminal.ControlSequence

/-!
# Interpreting output

The interpreter turns output into commands, one character at a time, and remembers a sequence that is
only partly read, so that a sequence may be cut anywhere. Control characters act at once wherever they
stand, except inside an operating-system string, which is skipped whole.
-/

namespace RoguePilot.Terminal

/-- What has been read of an escape sequence. -/
inductive Interpreter where
  /-- Nothing: characters are printed. -/
  | ground
  /-- The escape character. -/
  | escape
  /-- An escape sequence with intermediate characters, such as the choice of a character set. -/
  | escapeIntermediate
  /-- The introducer of a control sequence and perhaps marks. -/
  | entry (dialect : Dialect)
  /-- Parameters; the one that is being read is not in the list. -/
  | parameters (dialect : Dialect) (complete : List Nat) (current : Option Nat)
  /-- Parameters followed by intermediate characters. -/
  | intermediate (dialect : Dialect) (parameters : List Nat)
  /-- An operating-system string. -/
  | string
  /-- An escape character within an operating-system string. -/
  | stringEscape
deriving DecidableEq, Repr, Inhabited

namespace Interpreter

/-- No sequence is partly read. -/
def isIdle (interpreter : Interpreter) : Bool :=
  interpreter = .ground

/-- An operating-system string is being skipped. -/
def inString : Interpreter → Bool
  | .string => true
  | .stringEscape => true
  | _ => false

/-- The escape character. -/
def escapeCharacter : Char := '\x1b'

/-- The control characters below the space. -/
def isC0 (character : Char) : Bool :=
  character.toNat < 0x20

/-- The control characters between the ASCII and the Latin letters. -/
def isC1 (character : Char) : Bool :=
  0x80 ≤ character.toNat && character.toNat ≤ 0x9F

/-- An intermediate character of a sequence. -/
def isIntermediate (character : Char) : Bool :=
  0x20 ≤ character.toNat && character.toNat ≤ 0x2F

/-- A character that ends a control sequence. -/
def isFinal (character : Char) : Bool :=
  0x40 ≤ character.toNat && character.toNat ≤ 0x7E

/-- A mark at the start of a control sequence. -/
def isMark (character : Char) : Bool :=
  character = '?' || character = '>' || character = '!' || character = '='

/-- The commands of a control character outside strings, the escape character excepted. -/
def controlCommands : Char → List Command
  | '\x08' => [.backspace]
  | '\t' => [.tab]
  | '\n' => [.lineFeed]
  | '\x0b' => [.lineFeed]
  | '\x0c' => [.lineFeed]
  | '\r' => [.carriageReturn]
  | _ => []

/-- Reads the character after an escape character. -/
def afterEscape (character : Char) : Interpreter × List Command :=
  match character with
  | '[' => (.entry .standard, [])
  | ']' => (.string, [])
  | '7' => (.ground, [.saveCursor])
  | '8' => (.ground, [.restoreCursor])
  | 'D' => (.ground, [.index])
  | 'E' => (.ground, [.nextLine])
  | 'M' => (.ground, [.reverseIndex])
  | 'c' => (.ground, [.reset])
  | _ => if isIntermediate character then (.escapeIntermediate, []) else (.ground, [])

/-- The parameters when the one that is being read ends here; an omitted last one is absent. -/
def allParameters (complete : List Nat) (current : Option Nat) : List Nat :=
  complete ++ current.toList

/-- The digit a character stands for, if it is an ASCII digit. -/
def digit? (character : Char) : Option Nat :=
  if character.isDigit then some (character.toNat - '0'.toNat) else none

/-- Reads a character after the introducer and marks. -/
def afterEntry (dialect : Dialect) (character : Char) : Interpreter × List Command :=
  match digit? character with
  | some digit => (.parameters dialect [] (some digit), [])
  | none =>
    if character = ';' then (.parameters dialect [0] none, [])
    else if isMark character then (.entry (dialect.mark character), [])
    else if isIntermediate character then (.intermediate (dialect.mark character) [], [])
    else if isFinal character then (.ground, sequenceCommands dialect character [])
    else (.ground, [])

/-- Reads a character after parameters. A colon separates parameters like a semicolon. -/
def afterParameters (dialect : Dialect) (complete : List Nat) (current : Option Nat)
    (character : Char) : Interpreter × List Command :=
  match digit? character with
  | some digit => (.parameters dialect complete (some (extendParameter (current.getD 0) digit)), [])
  | none =>
    if character = ';' || character = ':' then
      (.parameters dialect (complete ++ [current.getD 0]) none, [])
    else if isIntermediate character then
      (.intermediate (dialect.mark character) (allParameters complete current), [])
    else if isFinal character then
      (.ground, sequenceCommands dialect character (allParameters complete current))
    else (.ground, [])

/-- Reads a character after intermediate characters. -/
def afterIntermediate (dialect : Dialect) (numbers : List Nat) (character : Char) :
    Interpreter × List Command :=
  if isIntermediate character then (.intermediate (dialect.mark character) numbers, [])
  else if isFinal character then (.ground, sequenceCommands dialect character numbers)
  else (.ground, [])

/-- Reads a character of an operating-system string: a bell or a terminator ends it. -/
def afterString (character : Char) : Interpreter × List Command :=
  if character = '\x07' || character = '\u009c' then (.ground, [])
  else if character = escapeCharacter then (.stringEscape, [])
  else (.string, [])

/--
Reads the character after an escape character in a string. A backslash completes the terminator; any
other character shows that the string was over and a new escape sequence has begun.
-/
def afterStringEscape (character : Char) : Interpreter × List Command :=
  if character = '\\' then (.ground, []) else afterEscape character

/-- Reads a character that is neither a control character nor padding. -/
def read (interpreter : Interpreter) (character : Char) : Interpreter × List Command :=
  match interpreter with
  | .ground => (.ground, if isC1 character then [] else [.print character])
  | .escape => afterEscape character
  | .escapeIntermediate =>
    if isIntermediate character then (.escapeIntermediate, []) else (.ground, [])
  | .entry dialect => afterEntry dialect character
  | .parameters dialect complete current => afterParameters dialect complete current character
  | .intermediate dialect numbers => afterIntermediate dialect numbers character
  | .string => afterString character
  | .stringEscape => afterStringEscape character

/-- Reads one character: what is partly read now, and the commands to carry out. -/
def feed (interpreter : Interpreter) (character : Char) : Interpreter × List Command :=
  if isC0 character && !interpreter.inString then
    if character = escapeCharacter then (.escape, [])
    else (interpreter, controlCommands character)
  else if character = '\x7f' then (interpreter, [])
  else interpreter.read character

end Interpreter

/-- A terminal together with the interpreter of what it is sent. -/
structure Console where
  /-- What is partly read. -/
  interpreter : Interpreter
  /-- What has been drawn. -/
  terminal : Terminal
deriving DecidableEq, Repr

namespace Console

/-- A console as switched on. -/
def start (size : Size) : Console :=
  ⟨.ground, .start size⟩

/-- Displays one character. -/
def feed (console : Console) (character : Char) : Console :=
  let after := console.interpreter.feed character
  ⟨after.1, console.terminal.applyAll after.2⟩

/-- Displays a text. -/
def display (console : Console) (text : List Char) : Console :=
  text.foldl feed console

@[simp] theorem display_append (console : Console) (first second : List Char) :
    console.display (first ++ second) = (console.display first).display second := by
  simp [display, List.foldl_append]

end Console

end RoguePilot.Terminal
