import RoguePilot.Proofs.Terminal.WholeSequence

/-!
# The interpreter on buffers

The interpreter holds what it has read of a sequence and nothing besides. A machine collects numbers and
marks in buffers, and it empties them only when the next sequence begins: what a sequence that has ended or
was given up has left there stays for a while. This file runs the interpreter on such buffers. It gives the
same commands, because what is left over is never read.
-/

namespace RoguePilot.Terminal

/-- How far a sequence has been read. -/
inductive Stage where
  /-- Not at all: characters are printed. -/
  | ground
  /-- Up to the escape character. -/
  | escape
  /-- Up to intermediate characters of an escape sequence. -/
  | escapeIntermediate
  /-- Up to the introducer of a control sequence and perhaps marks. -/
  | entry
  /-- Up to parameters. -/
  | parameters
  /-- Up to intermediate characters of a control sequence. -/
  | intermediate
  /-- Up to somewhere in an operating-system string. -/
  | string
  /-- Up to an escape character in an operating-system string. -/
  | stringEscape
deriving DecidableEq, Repr

/-- The interpreter of a machine. -/
structure Buffered where
  /-- How far a sequence has been read. -/
  stage : Stage
  /-- The numbers that are complete. -/
  numbers : List Nat
  /-- The marks and intermediate characters. -/
  marks : List Char
  /-- The number that is being read. -/
  current : Option Nat
deriving DecidableEq, Repr

namespace Buffered

open Interpreter (escapeCharacter isC0 isC1 isIntermediate isFinal isMark digit? allParameters
  controlCommands)

/-- No sequence is partly read. -/
def isIdle (buffered : Buffered) : Bool :=
  buffered.stage = .ground

/-- An operating-system string is being skipped. -/
def inString (buffered : Buffered) : Bool :=
  buffered.stage = .string || buffered.stage = .stringEscape

/-- The same buffers at another stage. -/
def goTo (buffered : Buffered) (stage : Stage) : Buffered :=
  { buffered with stage }

/-- A sequence begins: only here are the buffers emptied. -/
def begun : Buffered :=
  ⟨.escape, [], [], none⟩

/-- One more mark or intermediate character. -/
def collect (buffered : Buffered) (mark : Char) : Buffered :=
  { buffered with marks := buffered.marks ++ [mark] }

/-- The number that is being read, if there is one, joins the others. -/
def finish (buffered : Buffered) : Buffered :=
  { buffered with numbers := allParameters buffered.numbers buffered.current, current := none }

/-- Carries out a control sequence. The buffers stay as they are. -/
def execute (buffered : Buffered) (final : Char) : Buffered × List Command :=
  (buffered.goTo .ground, sequenceCommands (.ofMarks buffered.marks) final buffered.numbers)

/-- Reads the character after an escape character. -/
def afterEscape (buffered : Buffered) (character : Char) : Buffered × List Command :=
  match character with
  | '[' => (buffered.goTo .entry, [])
  | ']' => (buffered.goTo .string, [])
  | '7' => (buffered.goTo .ground, [.saveCursor])
  | '8' => (buffered.goTo .ground, [.restoreCursor])
  | 'D' => (buffered.goTo .ground, [.index])
  | 'E' => (buffered.goTo .ground, [.nextLine])
  | 'M' => (buffered.goTo .ground, [.reverseIndex])
  | 'c' => (buffered.goTo .ground, [.reset])
  | _ =>
    if isIntermediate character then ((buffered.collect character).goTo .escapeIntermediate, [])
    else (buffered.goTo .ground, [])

/-- Reads a character after intermediate characters of an escape sequence. -/
def afterEscapeIntermediate (buffered : Buffered) (character : Char) : Buffered × List Command :=
  if isIntermediate character then (buffered.collect character, []) else (buffered.goTo .ground, [])

/-- Reads a character after the introducer and marks. -/
def afterEntry (buffered : Buffered) (character : Char) : Buffered × List Command :=
  match digit? character with
  | some digit => ({ buffered with stage := .parameters, current := some digit }, [])
  | none =>
    if character = ';' then
      ({ buffered with stage := .parameters, numbers := buffered.numbers ++ [0] }, [])
    else if isMark character then (buffered.collect character, [])
    else if isIntermediate character then ((buffered.collect character).goTo .intermediate, [])
    else if isFinal character then buffered.execute character
    else (buffered.goTo .ground, [])

/-- Reads a character after parameters. -/
def afterParameters (buffered : Buffered) (character : Char) : Buffered × List Command :=
  match digit? character with
  | some digit =>
    ({ buffered with current := some (extendParameter (buffered.current.getD 0) digit) }, [])
  | none =>
    if character = ';' || character = ':' then
      ({ buffered with
          numbers := buffered.numbers ++ [buffered.current.getD 0]
          current := none }, [])
    else if isIntermediate character then
      ((buffered.finish.collect character).goTo .intermediate, [])
    else if isFinal character then buffered.finish.execute character
    else (buffered.goTo .ground, [])

/-- Reads a character after intermediate characters of a control sequence. -/
def afterIntermediate (buffered : Buffered) (character : Char) : Buffered × List Command :=
  if isIntermediate character then (buffered.collect character, [])
  else if isFinal character then buffered.execute character
  else (buffered.goTo .ground, [])

/-- Reads a character of an operating-system string. -/
def afterString (buffered : Buffered) (character : Char) : Buffered × List Command :=
  if character = '\x07' || character = '\u009c' then (buffered.goTo .ground, [])
  else if character = escapeCharacter then (buffered.goTo .stringEscape, [])
  else (buffered, [])

/-- Reads the character after an escape character in a string. -/
def afterStringEscape (buffered : Buffered) (character : Char) : Buffered × List Command :=
  if character = '\\' then (buffered.goTo .ground, []) else afterEscape begun character

/-- Reads a character that is neither a control character nor padding. -/
def read (buffered : Buffered) (character : Char) : Buffered × List Command :=
  match buffered.stage with
  | .ground => (buffered, if isC1 character then [] else [.print character])
  | .escape => buffered.afterEscape character
  | .escapeIntermediate => buffered.afterEscapeIntermediate character
  | .entry => buffered.afterEntry character
  | .parameters => buffered.afterParameters character
  | .intermediate => buffered.afterIntermediate character
  | .string => buffered.afterString character
  | .stringEscape => buffered.afterStringEscape character

/-- Reads one character. -/
def feed (buffered : Buffered) (character : Char) : Buffered × List Command :=
  if isC0 character && !buffered.inString then
    if character = escapeCharacter then (begun, []) else (buffered, controlCommands character)
  else if character = '\x7f' then (buffered, [])
  else buffered.read character

/-- Reads a text: the buffers at its end, and the commands to carry out. -/
def feedAll (buffered : Buffered) : List Char → Buffered × List Command
  | [] => (buffered, [])
  | character :: text =>
    let first := buffered.feed character
    let later := first.1.feedAll text
    (later.1, first.2 ++ later.2)

/-! ## What is in the buffers -/

/--
The buffers hold what the interpreter has read. Where it has read no numbers or marks yet they are empty,
and where nothing looks at them they hold anything.
-/
inductive Holds : Buffered → Interpreter → Prop where
  | ground (numbers : List Nat) (marks : List Char) (current : Option Nat) :
      Holds ⟨.ground, numbers, marks, current⟩ .ground
  | escape : Holds ⟨.escape, [], [], none⟩ .escape
  | escapeIntermediate (numbers : List Nat) (marks : List Char) (current : Option Nat) :
      Holds ⟨.escapeIntermediate, numbers, marks, current⟩ .escapeIntermediate
  | entry (marks : List Char) : Holds ⟨.entry, [], marks, none⟩ (.entry (.ofMarks marks))
  | parameters (numbers : List Nat) (marks : List Char) (current : Option Nat) :
      Holds ⟨.parameters, numbers, marks, current⟩ (.parameters (.ofMarks marks) numbers current)
  | intermediate (numbers : List Nat) (marks : List Char) :
      Holds ⟨.intermediate, numbers, marks, none⟩ (.intermediate (.ofMarks marks) numbers)
  | string (numbers : List Nat) (marks : List Char) (current : Option Nat) :
      Holds ⟨.string, numbers, marks, current⟩ .string
  | stringEscape (numbers : List Nat) (marks : List Char) (current : Option Nat) :
      Holds ⟨.stringEscape, numbers, marks, current⟩ .stringEscape

/-- Both readers give the same commands, and the buffers of the one hold what the other has read. -/
structure Agrees (left : Buffered × List Command) (right : Interpreter × List Command) : Prop where
  /-- The buffers hold what has been read. -/
  holds : Holds left.1 right.1
  /-- The commands are the same. -/
  commands_eq : left.2 = right.2

variable {buffered : Buffered} {interpreter : Interpreter}

theorem holds_ground (idle : buffered.isIdle = true) : Holds buffered .ground := by
  obtain ⟨stage, numbers, marks, current⟩ := buffered
  obtain rfl : stage = .ground := decide_eq_true_iff.mp idle
  exact .ground numbers marks current

namespace Holds

theorem isIdle_eq (holds : Holds buffered interpreter) :
    buffered.isIdle = interpreter.isIdle := by
  cases holds <;> rfl

theorem inString_eq (holds : Holds buffered interpreter) :
    buffered.inString = interpreter.inString := by
  cases holds <;> rfl

/-- The numbers collected so far are in the buffers once the last one joins the others. -/
theorem finish_numbers_eq (holds : Holds buffered interpreter) {dialect : Dialect}
    {numbers : List Nat} (collects : Interpreter.Collects dialect numbers interpreter) :
    buffered.finish.numbers = numbers := by
  cases collects with
  | entry => cases holds; rfl
  | parameters => cases holds; rfl
  | intermediate => cases holds; exact List.append_nil _

end Holds

section Stages

variable (numbers : List Nat) (marks : List Char) (current : Option Nat) (character : Char)

theorem execute_agrees (stage : Stage) :
    Agrees (execute ⟨stage, numbers, marks, current⟩ character)
      (.ground, sequenceCommands (.ofMarks marks) character numbers) :=
  ⟨.ground numbers marks current, rfl⟩

theorem afterEscape_agrees :
    Agrees (afterEscape begun character) (Interpreter.afterEscape character) := by
  fun_cases afterEscape begun character
  case case1 => exact ⟨.entry [], rfl⟩
  case case2 => exact ⟨.string [] [] none, rfl⟩
  case case9 =>
    have intermediate : isIntermediate character = true := ‹_›
    rw [Interpreter.afterEscape, if_pos intermediate, if_pos intermediate]
    · exact ⟨.escapeIntermediate [] [character] none, rfl⟩
    all_goals assumption
  case case10 =>
    have not_intermediate : ¬isIntermediate character = true := ‹_›
    rw [Interpreter.afterEscape, if_neg not_intermediate, if_neg not_intermediate]
    · exact ⟨.ground [] [] none, rfl⟩
    all_goals assumption
  all_goals exact ⟨.ground [] [] none, rfl⟩

theorem afterEscapeIntermediate_agrees :
    Agrees (afterEscapeIntermediate ⟨.escapeIntermediate, numbers, marks, current⟩ character)
      (Interpreter.read .escapeIntermediate character) := by
  rw [afterEscapeIntermediate, Interpreter.read]
  split
  · exact ⟨.escapeIntermediate numbers (marks ++ [character]) current, rfl⟩
  · exact ⟨.ground numbers marks current, rfl⟩

theorem afterEntry_agrees :
    Agrees (afterEntry ⟨.entry, [], marks, none⟩ character)
      (Interpreter.afterEntry (.ofMarks marks) character) := by
  rw [afterEntry, Interpreter.afterEntry]
  cases digit? character with
  | some digit => exact ⟨.parameters [] marks (some digit), rfl⟩
  | none =>
      simp only [← Dialect.ofMarks_concat]
      split
      · exact ⟨.parameters [0] marks none, rfl⟩
      · split
        · exact ⟨.entry (marks ++ [character]), rfl⟩
        · split
          · exact ⟨.intermediate [] (marks ++ [character]), rfl⟩
          · split
            · exact execute_agrees [] marks none character .entry
            · exact ⟨.ground [] marks none, rfl⟩

theorem afterParameters_agrees :
    Agrees (afterParameters ⟨.parameters, numbers, marks, current⟩ character)
      (Interpreter.afterParameters (.ofMarks marks) numbers current character) := by
  rw [afterParameters, Interpreter.afterParameters]
  cases digit? character with
  | some digit =>
      exact ⟨.parameters numbers marks (some (extendParameter (current.getD 0) digit)), rfl⟩
  | none =>
      simp only [← Dialect.ofMarks_concat]
      split
      · exact ⟨.parameters (numbers ++ [current.getD 0]) marks none, rfl⟩
      · split
        · exact ⟨.intermediate (allParameters numbers current) (marks ++ [character]), rfl⟩
        · split
          · exact execute_agrees (allParameters numbers current) marks none character .parameters
          · exact ⟨.ground numbers marks current, rfl⟩

theorem afterIntermediate_agrees :
    Agrees (afterIntermediate ⟨.intermediate, numbers, marks, none⟩ character)
      (Interpreter.afterIntermediate (.ofMarks marks) numbers character) := by
  rw [afterIntermediate, Interpreter.afterIntermediate, ← Dialect.ofMarks_concat]
  split
  · exact ⟨.intermediate numbers (marks ++ [character]), rfl⟩
  · split
    · exact execute_agrees numbers marks none character .intermediate
    · exact ⟨.ground numbers marks none, rfl⟩

theorem afterString_agrees :
    Agrees (afterString ⟨.string, numbers, marks, current⟩ character)
      (Interpreter.afterString character) := by
  rw [afterString, Interpreter.afterString]
  split
  · exact ⟨.ground numbers marks current, rfl⟩
  · split
    · exact ⟨.stringEscape numbers marks current, rfl⟩
    · exact ⟨.string numbers marks current, rfl⟩

theorem afterStringEscape_agrees :
    Agrees (afterStringEscape ⟨.stringEscape, numbers, marks, current⟩ character)
      (Interpreter.afterStringEscape character) := by
  rw [afterStringEscape, Interpreter.afterStringEscape]
  split
  · exact ⟨.ground numbers marks current, rfl⟩
  · exact afterEscape_agrees character

end Stages

namespace Holds

theorem read (holds : Holds buffered interpreter) (character : Char) :
    Agrees (buffered.read character) (interpreter.read character) := by
  cases holds with
  | ground numbers marks current => exact ⟨.ground numbers marks current, rfl⟩
  | escape => exact afterEscape_agrees character
  | escapeIntermediate numbers marks current =>
      exact afterEscapeIntermediate_agrees numbers marks current character
  | entry marks => exact afterEntry_agrees marks character
  | parameters numbers marks current => exact afterParameters_agrees numbers marks current character
  | intermediate numbers marks => exact afterIntermediate_agrees numbers marks character
  | string numbers marks current => exact afterString_agrees numbers marks current character
  | stringEscape numbers marks current =>
      exact afterStringEscape_agrees numbers marks current character

theorem feed (holds : Holds buffered interpreter) (character : Char) :
    Agrees (buffered.feed character) (interpreter.feed character) := by
  rw [Buffered.feed, Interpreter.feed, holds.inString_eq]
  split
  · split
    · exact ⟨.escape, rfl⟩
    · exact ⟨holds, rfl⟩
  · split
    · exact ⟨holds, rfl⟩
    · exact holds.read character

/-- Whatever is left over in the buffers, a text gives the same commands as without buffers. -/
theorem feedAll (holds : Holds buffered interpreter) (text : List Char) :
    Agrees (buffered.feedAll text) (interpreter.feedAll text) := by
  induction text generalizing buffered interpreter with
  | nil => exact ⟨holds, rfl⟩
  | cons character text induction =>
      have first := holds.feed character
      have later := induction first.holds
      refine ⟨later.holds, ?_⟩
      change (buffered.feed character).2 ++ _ = (interpreter.feed character).2 ++ _
      rw [first.commands_eq, later.commands_eq]

end Holds

end Buffered

end RoguePilot.Terminal
