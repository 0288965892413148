import RoguePilot.Terminal.Rendition

/-!
# Control sequences

A control sequence is an introducer, parameters, and a final character that says what to do. The marks
before the final character decide whose sequence it is: without marks it is a standard one, a question
mark makes it private, any other mark makes it unknown. This file says which commands each complete
sequence stands for.
-/

namespace RoguePilot.Terminal

/-- Whose meaning a control sequence has. -/
inductive Dialect where
  /-- No mark was seen. -/
  | standard
  /-- A question mark was seen. -/
  | privateUse
  /-- Only other marks were seen. -/
  | unknown
deriving DecidableEq, Repr

/-- The dialect after one more mark. -/
def Dialect.mark (dialect : Dialect) (mark : Char) : Dialect :=
  if mark = '?' then .privateUse
  else match dialect with
    | .standard => .unknown
    | marked => marked

/-- The greatest parameter; greater ones count as this one. -/
def greatestParameter : Nat := 65535

/-- A parameter with one more digit. -/
def extendParameter (parameter digit : Nat) : Nat :=
  min greatestParameter (parameter * 10 + digit)

/-- The first parameter as a count: omitted or zero means one. -/
def countOf (parameters : List Nat) : Nat :=
  max (parameters.headD 1) 1

/-- The first parameter as a code: omitted means zero. -/
def codeOf (parameters : List Nat) : Nat :=
  parameters.headD 0

/-- The second parameter of a position, one if it is omitted. -/
def secondOf (parameters : List Nat) : Nat :=
  parameters[1]?.getD 1

/-- The last line of a scroll region; omitted or zero means the last line of any screen. -/
def bottomOf (parameters : List Nat) : Nat :=
  match parameters[1]? with
  | none => greatestParameter
  | some 0 => greatestParameter
  | some bottom => bottom

/-- The commands of a standard sequence. -/
def standardCommands (final : Char) (parameters : List Nat) : List Command :=
  match final with
  | 'A' => [.cursorUp (countOf parameters)]
  | 'B' => [.cursorDown (countOf parameters)]
  | 'C' => [.cursorForward (countOf parameters)]
  | 'D' => [.cursorBackward (countOf parameters)]
  | 'E' => [.cursorDown (countOf parameters), .carriageReturn]
  | 'F' => [.cursorUp (countOf parameters), .carriageReturn]
  | 'G' => [.setColumn (countOf parameters)]
  | 'H' => [.setPosition (parameters.headD 1) (secondOf parameters)]
  | 'f' => [.setPosition (parameters.headD 1) (secondOf parameters)]
  | 'd' => [.setRow (countOf parameters)]
  | 'J' => ((Extent.ofDisplayCode? (codeOf parameters)).map Command.eraseDisplay).toList
  | 'K' => ((Extent.ofLineCode? (codeOf parameters)).map Command.eraseLine).toList
  | 'L' => [.insertLines (countOf parameters)]
  | 'M' => [.deleteLines (countOf parameters)]
  | '@' => [.insertCells (countOf parameters)]
  | 'P' => [.deleteCells (countOf parameters)]
  | 'X' => [.eraseCells (countOf parameters)]
  | 'S' => [.scrollUp (countOf parameters)]
  | 'T' => [.scrollDown (countOf parameters)]
  | 'r' => [.setRegion (parameters.headD 1) (bottomOf parameters)]
  | 'm' => Rendition.commands parameters
  | 's' => [.saveCursor]
  | 'u' => [.restoreCursor]
  | 'h' => (parameters.filterMap Switch.ofMode?).map fun switch => .set switch true
  | 'l' => (parameters.filterMap Switch.ofMode?).map fun switch => .set switch false
  | _ => []

/-- The commands of a private sequence. -/
def privateCommands (final : Char) (parameters : List Nat) : List Command :=
  match final with
  | 'h' => (parameters.filterMap Switch.ofPrivateMode?).map fun switch => .set switch true
  | 'l' => (parameters.filterMap Switch.ofPrivateMode?).map fun switch => .set switch false
  | _ => []

/-- The commands of a complete control sequence; one that is not known has none. -/
def sequenceCommands (dialect : Dialect) (final : Char) (parameters : List Nat) : List Command :=
  match dialect with
  | .standard => standardCommands final parameters
  | .privateUse => privateCommands final parameters
  | .unknown => []

end RoguePilot.Terminal
