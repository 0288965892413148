import RoguePilot.Proofs.Terminal.WholeSequence

/-!
# Clearing the screen

Text without escape characters fills cells, moves the cursor, leaves a wrap pending and scrolls, and
that is all it can do: how the terminal is set up stays as it is. Clearing the screen undoes the rest, so
drawing starts afresh after it.
-/

namespace RoguePilot.Terminal

/-! ## What drawing leaves alone -/

/-- How a terminal is set up: everything but its cells and the place of the cursor. -/
structure Setup where
  /-- What was saved of the cursor. -/
  saved : Option SavedCursor := none
  /-- The style in force. -/
  style : Style := {}
  /-- The switches. -/
  modes : Modes := {}
  /-- The scroll region. -/
  region : Region
deriving DecidableEq, Repr

/-- How the terminal is set up. -/
def setup (terminal : Terminal) : Setup where
  saved := terminal.cursor.saved
  style := terminal.style
  modes := terminal.modes
  region := terminal.region

/-- The command changes cells and the place of the cursor only. -/
def Command.isDrawing : Command → Bool
  | .setRegion _ _ => false
  | .saveCursor => false
  | .restoreCursor => false
  | .set _ _ => false
  | .restyle _ => false
  | .reset => false
  | _ => true

section Drawing

variable (terminal : Terminal)

theorem setup_index : terminal.index.setup = terminal.setup := by
  simp only [index]
  split
  · rfl
  · split <;> rfl

theorem setup_reverseIndex : terminal.reverseIndex.setup = terminal.setup := by
  simp only [reverseIndex]
  split
  · rfl
  · split <;> rfl

theorem setup_nextLine : terminal.nextLine.setup = terminal.setup :=
  setup_index terminal.toFirstColumn

theorem setup_lineFeed : terminal.lineFeed.setup = terminal.setup := by
  rw [lineFeed]
  split
  · exact setup_nextLine terminal
  · exact setup_index terminal

theorem setup_advance : terminal.advance.setup = terminal.setup := by
  rw [advance]
  split
  · rfl
  · split <;> rfl

theorem setup_print (glyph : Char) : (terminal.print glyph).setup = terminal.setup := by
  simp only [print]
  split
  · rw [setup_advance]
    split
    · exact setup_nextLine terminal
    · rfl
  · rfl

theorem setup_insertLines (count : Nat) : (terminal.insertLines count).setup = terminal.setup := by
  rw [insertLines]
  split <;> rfl

theorem setup_deleteLines (count : Nat) : (terminal.deleteLines count).setup = terminal.setup := by
  rw [deleteLines]
  split <;> rfl

variable {terminal} {command : Command}

theorem setup_apply (draws : command.isDrawing = true) :
    (terminal.apply command).setup = terminal.setup := by
  cases command with
  | print glyph => exact setup_print terminal glyph
  | lineFeed => exact setup_lineFeed terminal
  | index => exact setup_index terminal
  | reverseIndex => exact setup_reverseIndex terminal
  | nextLine => exact setup_nextLine terminal
  | eraseDisplay extent => cases extent <;> rfl
  | eraseLine extent => cases extent <;> rfl
  | insertLines count => exact setup_insertLines terminal count
  | deleteLines count => exact setup_deleteLines terminal count
  | setRegion | saveCursor | restoreCursor | set | restyle | reset => contradiction
  | _ => rfl

theorem setup_applyAll {commands : List Command}
    (draw : ∀ command ∈ commands, command.isDrawing = true) :
    (terminal.applyAll commands).setup = terminal.setup := by
  induction commands generalizing terminal with
  | nil => rfl
  | cons command commands induction =>
      obtain ⟨here, later⟩ := List.forall_mem_cons.mp draw
      rw [applyAll_cons, induction later, setup_apply here]

end Drawing

/-! ## Text without escape characters -/

namespace Interpreter

theorem isDrawing_of_mem_controlCommands {character : Char} {command : Command}
    (member : command ∈ controlCommands character) : command.isDrawing = true := by
  unfold controlCommands at member
  split at member
  all_goals simp_all [Command.isDrawing]

theorem feed_ground {character : Char} (plain : character ≠ escapeCharacter) :
    ∃ commands, feed .ground character = (.ground, commands) ∧
      ∀ command ∈ commands, command.isDrawing = true := by
  simp only [feed, if_neg plain, inString, Bool.not_false, Bool.and_true]
  split
  · exact ⟨_, rfl, fun _ => isDrawing_of_mem_controlCommands⟩
  · split
    · exact ⟨[], rfl, by simp⟩
    · simp only [read]
      split
      · exact ⟨[], rfl, by simp⟩
      · exact ⟨_, rfl, by simp [Command.isDrawing]⟩

end Interpreter

open Interpreter

namespace Console

variable {console : Console}

theorem display_of_plain {text : List Char} (ground : console.interpreter = .ground)
    (plain : escapeCharacter ∉ text) :
    (console.display text).interpreter = .ground ∧
      (console.display text).terminal.setup = console.terminal.setup := by
  induction text generalizing console with
  | nil => exact ⟨ground, rfl⟩
  | cons character text induction =>
      obtain ⟨here, later⟩ := List.ne_and_not_mem_of_not_mem_cons plain
      obtain ⟨commands, reads, draw⟩ := feed_ground here.symm
      have fed : console.feed character = ⟨.ground, console.terminal.applyAll commands⟩ := by
        rw [feed, ground, reads]
      have after := induction (congrArg Console.interpreter fed) later
      rw [display_cons]
      refine ⟨after.1, after.2.trans ?_⟩
      rw [fed]
      exact setup_applyAll draw

end Console

/-! ## Clearing -/

/-- The sequence that clears the screen. -/
def clearScreen : List Char :=
  "\x1b[2J".toList

theorem Console.display_clearScreen {console : Console} (ground : console.interpreter = .ground) :
    console.display clearScreen = ⟨.ground, console.terminal.eraseDisplay .all⟩ := by
  have reads : feedAll .ground clearScreen = (.ground, [.eraseDisplay .all]) := by decide
  rw [Console.display_of_ground ground reads]
  rfl

theorem WellFormed.eraseDisplay_all {terminal : Terminal} (wellFormed : terminal.WellFormed) :
    terminal.eraseDisplay .all =
      { screen := .blank terminal.size
        cursor := { saved := terminal.setup.saved }
        style := terminal.setup.style
        modes := terminal.setup.modes
        region := terminal.setup.region } := by
  have blanked : Stretch.fill 0 terminal.size.rows terminal.blankRow terminal.screen.lines =
      List.replicate terminal.size.rows terminal.blankRow := by
    simp [Stretch.fill, wellFormed.filled.length_eq]
  rw [Terminal.eraseDisplay, blanked, Terminal.moveTo, Nat.zero_min, Nat.zero_min]
  rfl

/-- A terminal that is set up as when it was switched on is as switched on once it is cleared. -/
theorem Console.Keeps.eraseDisplay_all {size : Size} {console : Console}
    (keeps : console.Keeps size.atLeastOne)
    (unchanged : console.terminal.setup = (Terminal.start size).setup) :
    console.terminal.eraseDisplay .all = Terminal.start size := by
  rw [keeps.wellFormed.eraseDisplay_all, unchanged, keeps.size_eq]
  rfl

/--
Whatever text without escape characters is displayed first, after clearing the screen everything is
displayed as on a console just switched on, sequences that set up the terminal or are cut off included.
-/
theorem clearing_restarts_drawing (size : Size) {prior : List Char}
    (plain : escapeCharacter ∉ prior) (writes : List Char) :
    (Console.start size).display (prior ++ clearScreen ++ writes) =
      (Console.start size).display writes := by
  have keeps := (Console.Keeps.start size).display prior
  have begins : (Console.start size).interpreter = .ground := rfl
  obtain ⟨ground, unchanged⟩ := Console.display_of_plain begins plain
  have restarted : (Console.start size).display (prior ++ clearScreen) = Console.start size := by
    rw [Console.display_append, Console.display_clearScreen ground, keeps.eraseDisplay_all unchanged]
    rfl
  rw [Console.display_append, restarted]

/-- A text that scrolls and leaves a wrap pending is forgotten. -/
theorem clearing_restarts_drawing_scrolled :
    escapeCharacter ∉ "one\r\ntwo\tthree".toList ∧
      (Console.start ⟨2, 2⟩).display "one\r\ntwo\tthree".toList ≠ Console.start ⟨2, 2⟩ ∧
      (Console.start ⟨2, 2⟩).display
          ("one\r\ntwo\tthree".toList ++ clearScreen ++ "\x1b[1mx\x1b[".toList) =
        (Console.start ⟨2, 2⟩).display "\x1b[1mx\x1b[".toList := by
  have plain : escapeCharacter ∉ "one\r\ntwo\tthree".toList := by decide
  exact ⟨plain, by decide, clearing_restarts_drawing ⟨2, 2⟩ plain "\x1b[1mx\x1b[".toList⟩

end RoguePilot.Terminal
