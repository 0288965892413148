import RoguePilot.Proofs.Terminal.Clearing
import RoguePilot.Proofs.Terminal.Editing

/-!
# Printing without wrapping

While automatic wrapping is off, what is printed stays in the line of the cursor, and in the last column
each character replaces the one before. The exception is a wrap that was already pending when wrapping
was switched off: it is still carried out, so the next character starts a new line.
-/

namespace RoguePilot.Terminal

/-- Characters printed one after another. -/
def printAll (terminal : Terminal) (text : List Char) : Terminal :=
  text.foldl print terminal

@[simp] theorem printAll_nil (terminal : Terminal) : terminal.printAll [] = terminal := rfl

@[simp] theorem printAll_cons (terminal : Terminal) (glyph : Char) (text : List Char) :
    terminal.printAll (glyph :: text) = (terminal.print glyph).printAll text := rfl

/-- Whatever is printed stays in the line of the cursor. -/
structure KeepsToLine (terminal : Terminal) : Prop where
  /-- The cursor stays in its line. -/
  row_eq (text : List Char) : (terminal.printAll text).row = terminal.row
  /-- No other line changes. -/
  line_eq (text : List Char) (row : Nat) (other : row ≠ terminal.row) :
    (terminal.printAll text).screen.lines[row]? = terminal.screen.lines[row]?
  /-- Nothing scrolls: a character fills the cell under the cursor, and the screen stays as it is. -/
  screen_eq (text : List Char) (glyph : Char) (takes : Text.takesCell glyph = true) :
    ((terminal.printAll text).print glyph).screen = ((terminal.printAll text).write glyph).screen
  /-- In the last column the cursor stays, so that each character replaces the one before. -/
  position_eq (text : List Char) (glyph : Char) (takes : Text.takesCell glyph = true)
    (last : (terminal.printAll text).column + 1 = terminal.size.columns) :
    ((terminal.printAll text).print glyph).cursor.position =
      (terminal.printAll text).cursor.position

/-- A pending wrap that would not show: it leads back to the only cell of the line. -/
structure HidesWrap (terminal : Terminal) : Prop where
  /-- Each line has a single cell. -/
  columns_eq : terminal.size.columns = 1
  /-- The next line is the one of the cursor. -/
  row_eq : terminal.nextLine.row = terminal.row
  /-- Nothing moves in the other lines. -/
  line_eq (row : Nat) (other : row ≠ terminal.row) :
    terminal.nextLine.screen.lines[row]? = terminal.screen.lines[row]?

/-! ## Writing and moving on -/

section Parts

variable {terminal : Terminal} {glyph : Char}

theorem print_of_not_takesCell (skipped : ¬Text.takesCell glyph = true) :
    terminal.print glyph = terminal :=
  if_neg skipped

theorem print_of_settled (settled : terminal.cursor.wrapPending = false)
    (takes : Text.takesCell glyph = true) :
    terminal.print glyph = (terminal.write glyph).advance := by
  rw [print, if_pos takes, settled, if_neg Bool.false_ne_true]

theorem print_of_pending (pending : terminal.cursor.wrapPending = true)
    (takes : Text.takesCell glyph = true) :
    terminal.print glyph = (terminal.nextLine.write glyph).advance := by
  rw [print, if_pos takes, pending, if_pos rfl]

theorem line_write (glyph : Char) {row : Nat} (other : row ≠ terminal.row) :
    (terminal.write glyph).screen.lines[row]? = terminal.screen.lines[row]? :=
  List.getElem?_modify_ne _ _ other.symm

/-- A glyph is written into the cell under the cursor and into no other. -/
theorem Placed.shows_write (placed : terminal.Placed) (takes : Text.takesCell glyph = true) :
    Screen.Shows ⟨terminal.size, (terminal.write glyph).screen.lines⟩ fun place =>
      if place.row = terminal.row ∧ place.column = terminal.column then
        some ⟨glyph, terminal.style⟩
      else terminal.screen.cell? place := by
  refine placed.shows.modify (fun _ fits => fits.set terminal.column takes) ?_ ?_
  · intro cells length_eq shown column inside
    rw [List.getElem?_set, ← shown column inside]
    grind
  · intro place apart
    exact if_neg fun hit => apart hit.1

theorem row_advance (terminal : Terminal) : terminal.advance.row = terminal.row := by
  rw [advance]
  split
  · rfl
  · split <;> rfl

theorem column_nextLine (terminal : Terminal) : terminal.nextLine.column = 0 := by
  simp only [nextLine, index]
  split
  · rfl
  · split <;> rfl

theorem settled_nextLine (terminal : Terminal) :
    terminal.nextLine.cursor.wrapPending = false := by
  simp only [nextLine, index]
  split
  · rfl
  · split <;> rfl

theorem size_printAll (terminal : Terminal) (text : List Char) :
    (terminal.printAll text).size = terminal.size := by
  induction text generalizing terminal with
  | nil => rfl
  | cons glyph text induction => rw [printAll_cons, induction, size_print]

/-- Nothing happens before the first character that takes a cell. -/
theorem printAll_cases (terminal : Terminal) (text : List Char) :
    terminal.printAll text = terminal ∨
      ∃ glyph rest, Text.takesCell glyph = true ∧
        terminal.printAll text = (terminal.print glyph).printAll rest := by
  induction text with
  | nil => exact Or.inl rfl
  | cons glyph text induction =>
      by_cases takes : Text.takesCell glyph = true
      · exact Or.inr ⟨glyph, text, takes, rfl⟩
      · rw [printAll_cons, print_of_not_takesCell takes]
        exact induction

end Parts

/-! ## No wrap to come -/

/-- Wrapping is off and no wrap is pending. -/
structure Unwrapped (terminal : Terminal) : Prop where
  /-- Wrapping is off. -/
  autoWrap_eq : terminal.modes.autoWrap = false
  /-- No wrap is pending. -/
  settled : terminal.cursor.wrapPending = false

namespace Unwrapped

variable {terminal : Terminal}

theorem write (unwrapped : terminal.Unwrapped) (glyph : Char) : (terminal.write glyph).Unwrapped :=
  ⟨unwrapped.autoWrap_eq, unwrapped.settled⟩

theorem advance (unwrapped : terminal.Unwrapped) : terminal.advance.Unwrapped := by
  rw [Terminal.advance]
  split
  · exact ⟨unwrapped.autoWrap_eq, unwrapped.settled⟩
  · rw [unwrapped.autoWrap_eq, if_neg Bool.false_ne_true]
    exact unwrapped

theorem advance_of_last (unwrapped : terminal.Unwrapped)
    (last : terminal.column + 1 = terminal.size.columns) : terminal.advance = terminal := by
  rw [Terminal.advance, if_neg (by omega), unwrapped.autoWrap_eq, if_neg Bool.false_ne_true]

theorem print (unwrapped : terminal.Unwrapped) (glyph : Char) :
    (terminal.print glyph).Unwrapped := by
  by_cases takes : Text.takesCell glyph = true
  · rw [print_of_settled unwrapped.settled takes]
    exact (unwrapped.write glyph).advance
  · rwa [print_of_not_takesCell takes]

theorem row_print (unwrapped : terminal.Unwrapped) (glyph : Char) :
    (terminal.print glyph).row = terminal.row := by
  by_cases takes : Text.takesCell glyph = true
  · rw [print_of_settled unwrapped.settled takes, row_advance]
    rfl
  · rw [print_of_not_takesCell takes]

theorem line_print (unwrapped : terminal.Unwrapped) (glyph : Char) {row : Nat}
    (other : row ≠ terminal.row) :
    (terminal.print glyph).screen.lines[row]? = terminal.screen.lines[row]? := by
  by_cases takes : Text.takesCell glyph = true
  · rw [print_of_settled unwrapped.settled takes, screen_advance, line_write glyph other]
  · rw [print_of_not_takesCell takes]

theorem printAll (unwrapped : terminal.Unwrapped) (text : List Char) :
    (terminal.printAll text).Unwrapped := by
  induction text generalizing terminal with
  | nil => exact unwrapped
  | cons glyph text induction => exact induction (unwrapped.print glyph)

theorem row_printAll (unwrapped : terminal.Unwrapped) (text : List Char) :
    (terminal.printAll text).row = terminal.row := by
  induction text generalizing terminal with
  | nil => rfl
  | cons glyph text induction =>
      rw [printAll_cons, induction (unwrapped.print glyph), unwrapped.row_print]

theorem line_printAll (unwrapped : terminal.Unwrapped) (text : List Char) {row : Nat}
    (other : row ≠ terminal.row) :
    (terminal.printAll text).screen.lines[row]? = terminal.screen.lines[row]? := by
  induction text generalizing terminal with
  | nil => rfl
  | cons glyph text induction =>
      have still : row ≠ (terminal.print glyph).row := by rwa [unwrapped.row_print]
      rw [printAll_cons, induction (unwrapped.print glyph) still, unwrapped.line_print glyph other]

theorem keepsToLine (unwrapped : terminal.Unwrapped) : terminal.KeepsToLine where
  row_eq := unwrapped.row_printAll
  line_eq text _ other := unwrapped.line_printAll text other
  screen_eq text glyph takes := by
    rw [print_of_settled (unwrapped.printAll text).settled takes, screen_advance]
  position_eq text glyph takes last := by
    have after := unwrapped.printAll text
    rw [print_of_settled after.settled takes, (after.write glyph).advance_of_last]
    · rfl
    · rw [size_write, size_printAll]
      exact last

end Unwrapped

/-! ## A wrap to come -/

section Pending

variable {terminal : Terminal} {glyph : Char}

theorem style_nextLine (terminal : Terminal) : terminal.nextLine.style = terminal.style :=
  congrArg Setup.style (setup_nextLine terminal)

theorem modes_nextLine (terminal : Terminal) : terminal.nextLine.modes = terminal.modes :=
  congrArg Setup.modes (setup_nextLine terminal)

theorem unwrapped_nextLine (off : terminal.modes.autoWrap = false) :
    terminal.nextLine.Unwrapped :=
  ⟨by rw [modes_nextLine, off], settled_nextLine terminal⟩

theorem row_print_of_pending (pending : terminal.cursor.wrapPending = true)
    (takes : Text.takesCell glyph = true) :
    (terminal.print glyph).row = terminal.nextLine.row := by
  rw [print_of_pending pending takes, row_advance]
  rfl

theorem screen_print_of_pending (pending : terminal.cursor.wrapPending = true)
    (takes : Text.takesCell glyph = true) :
    (terminal.print glyph).screen = (terminal.nextLine.write glyph).screen := by
  rw [print_of_pending pending takes, screen_advance]

/-- In the only cell of a line, what is written after a wrap replaces what was there. -/
theorem HidesWrap.screen_write (hides : terminal.HidesWrap) (placed : terminal.Placed)
    (takes : Text.takesCell glyph = true) :
    (terminal.nextLine.write glyph).screen = (terminal.write glyph).screen := by
  have size_eq : terminal.nextLine.size = terminal.size := size_nextLine terminal
  have columns_eq := hides.columns_eq
  have column_lt : terminal.column < terminal.size.columns := placed.cursor_inside.column_lt
  have column_eq : terminal.column = 0 := by omega
  have plain := placed.shows_write takes
  have wrapped := placed.nextLine.shows_write takes
  rw [size_eq] at wrapped
  have lines_eq :
      (terminal.nextLine.write glyph).screen.lines = (terminal.write glyph).screen.lines := by
    refine (wrapped.of_eq ?_).lines_eq plain
    intro place inside
    simp only [hides.row_eq, column_nextLine, column_eq, style_nextLine]
    by_cases same : place.row = terminal.row
    · have column_lt := inside.column_lt
      have only : place.row = terminal.row ∧ place.column = 0 := ⟨same, by omega⟩
      rw [if_pos only, if_pos only]
    · have apart : ¬(place.row = terminal.row ∧ place.column = 0) := fun both => same both.1
      rw [if_neg apart, if_neg apart, Screen.cell?, Screen.cell?, hides.line_eq place.row same]
  exact congrArg₂ Screen.mk size_eq lines_eq

theorem HidesWrap.position_print (hides : terminal.HidesWrap)
    (off : terminal.modes.autoWrap = false) (pending : terminal.cursor.wrapPending = true)
    (takes : Text.takesCell glyph = true) (last : terminal.column + 1 = terminal.size.columns) :
    (terminal.print glyph).cursor.position = terminal.cursor.position := by
  have column_eq : terminal.nextLine.column = terminal.column := by
    have columns_eq := hides.columns_eq
    rw [column_nextLine]
    omega
  have last_after : (terminal.nextLine.write glyph).column + 1 =
      (terminal.nextLine.write glyph).size.columns := by
    rw [size_write, size_nextLine, ← last, ← column_eq]
    rfl
  rw [print_of_pending pending takes,
    ((unwrapped_nextLine off).write glyph).advance_of_last last_after]
  exact congrArg₂ Position.mk hides.row_eq column_eq

/-- A pending wrap that would not show is as good as none. -/
theorem HidesWrap.keepsToLine (hides : terminal.HidesWrap) (placed : terminal.Placed)
    (off : terminal.modes.autoWrap = false) (pending : terminal.cursor.wrapPending = true) :
    terminal.KeepsToLine := by
  have after {glyph : Char} (takes : Text.takesCell glyph = true) :
      (terminal.print glyph).Unwrapped := by
    rw [print_of_pending pending takes]
    exact ((unwrapped_nextLine off).write glyph).advance
  have row_after {glyph : Char} (takes : Text.takesCell glyph = true) :
      (terminal.print glyph).row = terminal.row :=
    (row_print_of_pending pending takes).trans hides.row_eq
  constructor
  · intro text
    obtain same | ⟨first, rest, takes, printed⟩ := printAll_cases terminal text
    · rw [same]
    · rw [printed, (after takes).row_printAll, row_after takes]
  · intro text row other
    obtain same | ⟨first, rest, takes, printed⟩ := printAll_cases terminal text
    · rw [same]
    · have apart : row ≠ terminal.nextLine.row := hides.row_eq.symm ▸ other
      rw [printed, (after takes).line_printAll rest ((row_after takes).symm ▸ other),
        screen_print_of_pending pending takes, line_write first apart, hides.line_eq row other]
  · intro text glyph takes
    obtain same | ⟨first, rest, takes_first, printed⟩ := printAll_cases terminal text
    · rw [same, screen_print_of_pending pending takes, hides.screen_write placed takes]
    · rw [printed]
      exact (after takes_first).keepsToLine.screen_eq rest glyph takes
  · intro text glyph takes last
    obtain same | ⟨first, rest, takes_first, printed⟩ := printAll_cases terminal text
    · rw [same] at last ⊢
      exact hides.position_print off pending takes last
    · rw [printed] at last ⊢
      exact (after takes_first).keepsToLine.position_eq rest glyph takes (by rwa [size_print])

/-- Where a line has several cells, a pending wrap shows in the last of them. -/
theorem KeepsToLine.columns_eq (keeps : terminal.KeepsToLine) (wellFormed : terminal.WellFormed)
    (pending : terminal.cursor.wrapPending = true) : terminal.size.columns = 1 := by
  by_contra several
  have columns_pos := wellFormed.columns_pos
  have last : terminal.column + 1 = terminal.size.columns := wellFormed.wrap_at_end pending
  have inside : terminal.size.Contains terminal.cursor.position := wellFormed.cursor_inside
  -- Whatever is printed is in the last cell, which a print after the wrap does not reach.
  have shown {glyph : Char} (takes : Text.takesCell glyph = true) :
      terminal.nextLine.screen.cell? terminal.cursor.position = some ⟨glyph, terminal.style⟩ := by
    have same : (terminal.nextLine.write glyph).screen = (terminal.write glyph).screen :=
      (screen_print_of_pending pending takes).symm.trans (keeps.screen_eq [] glyph takes)
    have unreached : ¬(terminal.row = terminal.nextLine.row ∧
        terminal.column = terminal.nextLine.column) := by
      rw [column_nextLine]
      omega
    have beside := (wellFormed.nextLine.toPlaced.shows_write takes).cell?_eq terminal.cursor.position
      (by rwa [size_nextLine])
    have filled := (wellFormed.toPlaced.shows_write takes).cell?_eq terminal.cursor.position inside
    calc terminal.nextLine.screen.cell? terminal.cursor.position
      _ = (terminal.nextLine.write glyph).screen.cell? terminal.cursor.position :=
        (beside.trans (if_neg unreached)).symm
      _ = (terminal.write glyph).screen.cell? terminal.cursor.position := by rw [same]
      _ = some ⟨glyph, terminal.style⟩ := filled.trans (if_pos ⟨rfl, rfl⟩)
  have first := shown (show Text.takesCell 'a' = true by decide)
  have second := shown (show Text.takesCell 'b' = true by decide)
  rw [first] at second
  simp at second

theorem KeepsToLine.hidesWrap (keeps : terminal.KeepsToLine) (wellFormed : terminal.WellFormed)
    (pending : terminal.cursor.wrapPending = true) : terminal.HidesWrap := by
  have takes : Text.takesCell 'a' = true := by decide
  have row_eq : terminal.nextLine.row = terminal.row :=
    (row_print_of_pending pending takes).symm.trans (keeps.row_eq ['a'])
  refine ⟨keeps.columns_eq wellFormed pending, row_eq, ?_⟩
  intro row other
  have still := keeps.line_eq ['a'] row other
  rw [printAll_cons, printAll_nil, screen_print_of_pending pending takes,
    line_write 'a' (row_eq.symm ▸ other)] at still
  exact still

end Pending

/--
With wrapping off, what is printed stays in the line of the cursor just when no wrap is pending, apart
from a pending wrap that would not show.
-/
theorem keepsToLine_iff (columns rows : UInt16) (inputs : List Console.Input)
    (off : (reached columns rows inputs).modes.autoWrap = false) :
    (reached columns rows inputs).KeepsToLine ↔
      ((reached columns rows inputs).cursor.wrapPending = true →
        (reached columns rows inputs).HidesWrap) := by
  have wellFormed := reached_wellFormed columns rows inputs
  constructor
  · intro keeps pending
    exact keeps.hidesWrap wellFormed pending
  · intro hidden
    cases pending : (reached columns rows inputs).cursor.wrapPending with
    | false => exact Unwrapped.keepsToLine ⟨off, pending⟩
    | true => exact (hidden pending).keepsToLine wellFormed.toPlaced off pending

/-- Switched off first, wrapping does not come back once the line is full. -/
theorem keepsToLine_full_line :
    (reached 2 2 [.text "\x1b[?7labc".toList]).modes.autoWrap = false ∧
      (reached 2 2 [.text "\x1b[?7labc".toList]).column = 1 ∧
      (reached 2 2 [.text "\x1b[?7labc".toList]).KeepsToLine := by
  have off : (reached 2 2 [.text "\x1b[?7labc".toList]).modes.autoWrap = false := by decide
  have settled : (reached 2 2 [.text "\x1b[?7labc".toList]).cursor.wrapPending = false := by decide
  refine ⟨off, by decide, (keepsToLine_iff 2 2 _ off).mpr ?_⟩
  intro pending
  rw [settled] at pending
  contradiction

/-- A wrap that is pending when wrapping is switched off takes the next character to a new line. -/
theorem pending_wrap_outlives_switch :
    (reached 2 2 [.text "ab\x1b[?7l".toList]).modes.autoWrap = false ∧
      (reached 2 2 [.text "ab\x1b[?7l".toList]).row = 0 ∧
      ((reached 2 2 [.text "ab\x1b[?7l".toList]).print 'c').row = 1 ∧
      ¬(reached 2 2 [.text "ab\x1b[?7l".toList]).KeepsToLine := by
  refine ⟨by decide, by decide, by decide, ?_⟩
  intro keeps
  have stays := keeps.row_eq ['c']
  revert stays
  decide

end RoguePilot.Terminal
