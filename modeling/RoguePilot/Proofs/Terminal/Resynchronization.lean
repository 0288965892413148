import RoguePilot.Proofs.Terminal.Run

/-!
# Resynchronisation

The escape character begins a new sequence whatever was partly read before it. Only operating-system
strings stand in its way, because an escape character may also be the first half of their terminator:
what follows it is then read as the rest of a sequence even if it is a control character. An escape
character right after another one in a string is therefore lost, and the sequence it begins is printed.
-/

namespace RoguePilot.Terminal

namespace Interpreter

/-! ## Escape characters -/

/-- The character that is skipped wherever it stands. -/
def padding : Char := '\x7f'

/-- Outside of strings an escape character begins a sequence, whatever was partly read. -/
theorem feed_escape_of_outside {interpreter : Interpreter} (outside : interpreter.inString = false) :
    interpreter.feed escapeCharacter = (.escape, []) := by
  have control : isC0 escapeCharacter = true := by decide
  simp only [feed, control, outside, Bool.not_false, Bool.and_self, if_true]

theorem feed_escape_string : feed .string escapeCharacter = (.stringEscape, []) := by decide

/-- Right after another one in a string, an escape character ends the sequence. -/
theorem feed_escape_stringEscape : feed .stringEscape escapeCharacter = (.ground, []) := by decide

@[simp] theorem feed_padding (interpreter : Interpreter) :
    interpreter.feed padding = (interpreter, []) := by
  have printable : isC0 padding = false := by decide
  simp only [feed, printable, Bool.false_and, Bool.false_eq_true, if_false]
  exact if_pos rfl

/-- What completes a terminator of strings is no sequence of its own. -/
theorem afterStringEscape_eq_afterEscape (character : Char) :
    afterStringEscape character = afterEscape character := by
  unfold afterStringEscape
  split
  · next backslash =>
    subst backslash
    decide
  · rfl

/-- In a string, too, an escape character begins a sequence, unless a control character follows. -/
theorem feed_stringEscape {character : Char} (printable : isC0 character = false) :
    character ≠ padding → feed .stringEscape character = feed .escape character := by
  intro visible
  have not_padding : character ≠ '\x7f' := visible
  simp only [feed, printable, Bool.false_and, Bool.false_eq_true, if_false, if_neg not_padding,
    read, afterStringEscape_eq_afterEscape]

theorem isIdle_iff {interpreter : Interpreter} :
    interpreter.isIdle = true ↔ interpreter = .ground :=
  decide_eq_true_iff

theorem inString_iff {interpreter : Interpreter} :
    interpreter.inString = true ↔ interpreter = .string ∨ interpreter = .stringEscape := by
  cases interpreter <;> simp [inString]

/-- An escape character and the letter c reset the terminal. -/
theorem feed_escape_reset {interpreter : Interpreter} (complete : interpreter ≠ .stringEscape) :
    ∃ begun, interpreter.feed escapeCharacter = (begun, []) ∧
      begun.feed 'c' = (.ground, [.reset]) := by
  cases outside : interpreter.inString with
  | false => exact ⟨.escape, feed_escape_of_outside outside, by decide⟩
  | true =>
      obtain rfl := (inString_iff.mp outside).resolve_right complete
      exact ⟨.stringEscape, feed_escape_string, by decide⟩

/-- The first character that is not padding is a control character. -/
def beginsWithControl (text : List Char) : Bool :=
  (text.find? fun character => character ≠ padding).any isC0

end Interpreter

open Interpreter

namespace Console

/-! ## Texts displayed afresh -/

/-- The console with whatever it has partly read forgotten. -/
def forget (console : Console) : Console :=
  { console with interpreter := .ground }

/--
The text is displayed as if nothing had been partly read before it: the terminal is the same, and
so is whether something is partly read at its end.
-/
structure DisplaysAfresh (console : Console) (text : List Char) : Prop where
  /-- The terminal is the same. -/
  terminal_eq : (console.display text).terminal = (console.forget.display text).terminal
  /-- Something is partly read at the end just when it would be. -/
  isIdle_eq :
    (console.display text).interpreter.isIdle = (console.forget.display text).interpreter.isIdle

@[simp] theorem display_nil (console : Console) : console.display [] = console := rfl

theorem display_cons (console : Console) (character : Char) (text : List Char) :
    console.display (character :: text) = (console.feed character).display text := rfl

/-- Feeding a character that has no commands changes nothing but what is partly read. -/
theorem feed_of_silent {console : Console} {character : Char} {next : Interpreter}
    (silent : console.interpreter.feed character = (next, [])) :
    console.feed character = { console with interpreter := next } := by
  rw [feed, silent]
  rfl

theorem forget_display_escape (console : Console) (rest : List Char) :
    console.forget.display (escapeCharacter :: rest) =
      { console with interpreter := .escape }.display rest := by
  have escaped : console.forget.feed escapeCharacter = { console with interpreter := .escape } :=
    feed_of_silent (feed_escape_of_outside rfl)
  rw [display_cons, escaped]

/-- Unless it begins with a control character, a text that follows an escape character in a string
is displayed like one that follows an escape character anywhere else. -/
theorem display_stringEscape (terminal : Terminal) {rest : List Char}
    (plain : beginsWithControl rest = false) :
    (display ⟨.stringEscape, terminal⟩ rest).terminal =
        (display ⟨.escape, terminal⟩ rest).terminal ∧
      (display ⟨.stringEscape, terminal⟩ rest).interpreter.isIdle =
        (display ⟨.escape, terminal⟩ rest).interpreter.isIdle := by
  induction rest with
  | nil => exact ⟨rfl, rfl⟩
  | cons character rest induction =>
      by_cases skipped : character = padding
      · subst skipped
        rw [display_cons, display_cons, feed_of_silent (feed_padding _),
          feed_of_silent (feed_padding _)]
        refine induction ?_
        simpa [beginsWithControl] using plain
      · have printable : isC0 character = false := by
          simpa [beginsWithControl, skipped] using plain
        have same : feed ⟨.stringEscape, terminal⟩ character = feed ⟨.escape, terminal⟩ character := by
          simp only [feed, feed_stringEscape printable skipped]
        rw [display_cons, display_cons, same]
        exact ⟨rfl, rfl⟩

theorem displaysAfresh_of_outside {console : Console}
    (outside : console.interpreter.inString = false) (rest : List Char) :
    console.DisplaysAfresh (escapeCharacter :: rest) := by
  have same : console.display (escapeCharacter :: rest) =
      console.forget.display (escapeCharacter :: rest) := by
    rw [forget_display_escape, display_cons, feed_of_silent (feed_escape_of_outside outside)]
  constructor
  · rw [same]
  · rw [same]

theorem display_escape_of_string {console : Console} (inside : console.interpreter = .string)
    (rest : List Char) :
    console.display (escapeCharacter :: rest) =
      { console with interpreter := .stringEscape }.display rest := by
  have escaped : console.feed escapeCharacter = { console with interpreter := .stringEscape } := by
    refine feed_of_silent ?_
    rw [inside]
    exact feed_escape_string
  rw [display_cons, escaped]

theorem displaysAfresh_of_string {console : Console} (inside : console.interpreter = .string)
    {rest : List Char} (plain : beginsWithControl rest = false) :
    console.DisplaysAfresh (escapeCharacter :: rest) := by
  have same := display_stringEscape console.terminal plain
  constructor
  · rw [forget_display_escape, display_escape_of_string inside]
    exact same.1
  · rw [forget_display_escape, display_escape_of_string inside]
    exact same.2

/-- Right after another one in a string, an escape character is lost: the rest is displayed as if it
stood alone. -/
theorem display_escape_of_stringEscape {console : Console}
    (inside : console.interpreter = .stringEscape) (rest : List Char) :
    console.display (escapeCharacter :: rest) = console.forget.display rest := by
  have lost : console.feed escapeCharacter = console.forget := by
    refine feed_of_silent ?_
    rw [inside]
    exact feed_escape_stringEscape
  rw [display_cons, lost]

/-! ## Sequences that are lost -/

theorem not_displaysAfresh_of_stringEscape {console : Console}
    (inside : console.interpreter = .stringEscape) :
    ¬ console.DisplaysAfresh [escapeCharacter] := by
  intro afresh
  have isIdle_eq := afresh.isIdle_eq
  rw [display_escape_of_stringEscape inside, forget_display_escape] at isIdle_eq
  contradiction

theorem not_displaysAfresh_of_string {console : Console} (inside : console.interpreter = .string) :
    ¬ console.DisplaysAfresh [escapeCharacter, '\n'] := by
  intro afresh
  have isIdle_eq := afresh.isIdle_eq
  rw [forget_display_escape, display_escape_of_string inside] at isIdle_eq
  contradiction

/-! ## Resetting -/

theorem display_reset {console : Console} (complete : console.interpreter ≠ .stringEscape) :
    console.display [escapeCharacter, 'c'] = ⟨.ground, console.terminal.reset⟩ := by
  obtain ⟨begun, begins, resets⟩ := feed_escape_reset complete
  rw [display_cons, display_cons, feed_of_silent begins, display_nil, feed, resets]
  rfl

/-- A terminal that is reset is as switched on, whatever extent it was switched on with. -/
theorem Keeps.reset_eq {size : Size} {console : Console}
    (keeps : console.Keeps size.atLeastOne) : console.terminal.reset = .start size := by
  have settled : size.atLeastOne.atLeastOne = size.atLeastOne :=
    (start_wellFormed size).atLeastOne_size
  rw [reset, keeps.size_eq]
  simp only [Terminal.start, settled]

end Console

/-! ## Printing -/

@[simp] theorem screen_advance (terminal : Terminal) : terminal.advance.screen = terminal.screen := by
  unfold advance
  split
  · rfl
  · split <;> rfl

/-- A glyph is in a cell of the screen once it is written. -/
theorem Placed.exists_written {terminal : Terminal} (placed : terminal.Placed) (glyph : Char) :
    ∃ row ∈ (terminal.write glyph).screen.lines, ∃ cell ∈ row, cell.glyph = glyph := by
  have row_lt : terminal.row < terminal.screen.lines.length := by
    rw [placed.filled.length_eq]
    exact placed.cursor_inside.row_lt
  have column_lt := placed.column_lt_length (placed.filled.fits _ (List.getElem_mem row_lt))
  have row_eq : (terminal.write glyph).screen.lines[terminal.row]? =
      some (terminal.screen.lines[terminal.row].set terminal.column ⟨glyph, terminal.style⟩) := by
    change (terminal.screen.lines.modify terminal.row _)[terminal.row]? = _
    rw [List.getElem?_modify_eq, List.getElem?_eq_getElem row_lt]
    rfl
  exact ⟨_, List.mem_of_getElem? row_eq, _, List.mem_set column_lt _, rfl⟩

/-- A glyph that takes a cell is in one once it is printed. -/
theorem WellFormed.exists_printed {terminal : Terminal} (wellFormed : terminal.WellFormed)
    {glyph : Char} (takes : Text.takesCell glyph = true) :
    ∃ row ∈ (terminal.print glyph).screen.lines, ∃ cell ∈ row, cell.glyph = glyph := by
  simp only [Terminal.print, takes, if_true, screen_advance]
  split
  · exact wellFormed.nextLine.exists_written glyph
  · exact wellFormed.exists_written glyph

theorem glyph_start {size : Size} {row : Row} (row_member : row ∈ (start size).screen.lines)
    {cell : Cell} (cell_member : cell ∈ row) : cell.glyph = ' ' := by
  rw [List.eq_of_mem_replicate row_member] at cell_member
  rw [List.eq_of_mem_replicate cell_member]
  rfl

/-! ## When an escape character resynchronises -/

/-- Right after an escape character in a string, a reset sequence is printed instead. -/
theorem Console.display_reset_ne {console : Console} (wellFormed : console.terminal.WellFormed)
    (inside : console.interpreter = .stringEscape) (size : Size) :
    console.display [escapeCharacter, 'c'] ≠ Console.start size := by
  have prints : Interpreter.feed .ground 'c' = (.ground, [.print 'c']) := by decide
  have printed : console.display [escapeCharacter, 'c'] = ⟨.ground, console.terminal.print 'c'⟩ := by
    rw [display_escape_of_stringEscape inside, display_cons, display_nil, feed, forget, prints]
    rfl
  intro restarted
  obtain ⟨row, row_member, cell, cell_member, glyph_eq⟩ :=
    wellFormed.exists_printed (show Text.takesCell 'c' = true by decide)
  have same : console.terminal.print 'c' = Terminal.start size :=
    congrArg Console.terminal (printed.symm.trans restarted)
  rw [same] at row_member
  have blank := glyph_start row_member cell_member
  rw [glyph_eq] at blank
  contradiction

/--
After any text, a sequence is displayed afresh whatever it is just when the text does not end in an
operating-system string. Sequences in which no control character follows the escape character are
displayed afresh, and a reset leaves the console as switched on, just when the text does not end
right after an escape character in such a string.
-/
theorem escape_resynchronizes_iff (size : Size) (text : List Char) :
    ((∀ rest, ((Console.start size).display text).DisplaysAfresh (escapeCharacter :: rest)) ↔
        ((Console.start size).display text).interpreter.inString = false) ∧
      ((∀ rest, beginsWithControl rest = false →
          ((Console.start size).display text).DisplaysAfresh (escapeCharacter :: rest)) ↔
        ((Console.start size).display text).interpreter ≠ .stringEscape) ∧
      ((Console.start size).display (text ++ [escapeCharacter, 'c']) = Console.start size ↔
        ((Console.start size).display text).interpreter ≠ .stringEscape) := by
  have keeps := (Console.Keeps.start size).display text
  rw [Console.display_append]
  generalize (Console.start size).display text = console at keeps
  refine ⟨⟨?_, ?_⟩, ⟨?_, ?_⟩, ⟨?_, ?_⟩⟩
  · intro afresh
    cases stage : console.interpreter with
    | string => exact absurd (afresh ['\n']) (Console.not_displaysAfresh_of_string stage)
    | stringEscape => exact absurd (afresh []) (Console.not_displaysAfresh_of_stringEscape stage)
    | _ => rfl
  · exact Console.displaysAfresh_of_outside
  · intro afresh stage
    exact Console.not_displaysAfresh_of_stringEscape stage (afresh [] rfl)
  · intro complete rest plain
    cases outside : console.interpreter.inString with
    | false => exact Console.displaysAfresh_of_outside outside rest
    | true =>
        have inside := (inString_iff.mp outside).resolve_right complete
        exact Console.displaysAfresh_of_string inside plain
  · intro restarted stage
    exact Console.display_reset_ne keeps.wellFormed stage size restarted
  · intro complete
    rw [Console.display_reset complete, keeps.reset_eq]
    rfl

/--
An escape character right after another one in an operating-system string is lost: the letter of the
reset sequence that it begins is printed.
-/
theorem escape_within_string_prints :
    ((Console.start ⟨2, 1⟩).display "\x1b]\x1b\x1bc".toList).terminal.screen.cell? .home =
        some ⟨'c', {}⟩ ∧
      (Console.start ⟨2, 1⟩).display "\x1b]\x1b\x1bc".toList ≠ Console.start ⟨2, 1⟩ ∧
      ¬ ((Console.start ⟨2, 1⟩).display "\x1b]\x1b".toList).DisplaysAfresh "\x1bc".toList := by
  refine ⟨by decide, by decide, ?_⟩
  intro afresh
  have terminal_eq := afresh.terminal_eq
  revert terminal_eq
  decide

end RoguePilot.Terminal
