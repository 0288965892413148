import RoguePilot.Proofs.Terminal.Clearing

/-!
# The saved cursor

What was saved of the cursor stays until the cursor is saved again or the terminal is reset, whatever is
drawn, erased, restored or switched in between. Since the saved place is on the screen and the extent never
changes, restoring the cursor leads back exactly there.
-/

namespace RoguePilot.Terminal

/-! ## Saving -/

/-- The command keeps the place and the style of the cursor. -/
def Command.savesCursor : Command → Bool
  | .saveCursor => true
  | .set .keptCursor true => true
  | .set .otherScreenKeepingCursor true => true
  | _ => false

/-- What is sent to keep the place and the style of the cursor. -/
def savingSequences : List (List Char) :=
  ["\x1b7".toList, "\x1b[s".toList, "\x1b[?1048h".toList, "\x1b[?1049h".toList]

/-- The input keeps the place and the style of the cursor. -/
inductive Console.Saves (console : Console) : Console.Input → Prop where
  /-- The terminal is told to. -/
  | command {command : Command} (saves : command.savesCursor = true) : Saves console (.command command)
  /-- A sequence that says so arrives, and nothing is partly read. -/
  | text {sequence : List Char} (idle : console.interpreter.isIdle = true)
      (saves : sequence ∈ savingSequences) : Saves console (.text sequence)

theorem feedAll_savingSequence {sequence : List Char} (saves : sequence ∈ savingSequences) :
    ∃ command : Command, command.savesCursor = true ∧
      Interpreter.feedAll .ground sequence = (.ground, [command]) := by
  have sequence_cases : sequence = "\x1b7".toList ∨ sequence = "\x1b[s".toList ∨
      sequence = "\x1b[?1048h".toList ∨ sequence = "\x1b[?1049h".toList := by
    simpa [savingSequences] using saves
  rcases sequence_cases with rfl | rfl | rfl | rfl
  · exact ⟨.saveCursor, rfl, by decide⟩
  · exact ⟨.saveCursor, rfl, by decide⟩
  · exact ⟨.set .keptCursor true, rfl, by decide⟩
  · exact ⟨.set .otherScreenKeepingCursor true, rfl, by decide⟩

/-- Every way of saving is a command that saves. -/
theorem Console.Saves.exists_command {console : Console} {save : Console.Input}
    (saves : console.Saves save) :
    ∃ command : Command, command.savesCursor = true ∧
      (console.take save).terminal = console.terminal.apply command := by
  cases saves with
  | @command command saves => exact ⟨command, saves, rfl⟩
  | text idle saves =>
      have ground := Interpreter.isIdle_iff.mp idle
      obtain ⟨command, saves, reads⟩ := feedAll_savingSequence saves
      exact ⟨command, saves, congrArg Console.terminal (Console.display_of_ground ground reads)⟩

variable {terminal : Terminal}

theorem saved_apply_of_savesCursor {command : Command} (saves : command.savesCursor = true) :
    (terminal.apply command).cursor.saved = some ⟨terminal.cursor.position, terminal.style⟩ := by
  unfold Command.savesCursor at saves
  split at saves
  · rfl
  · rfl
  · rfl
  · contradiction

/-! ## Keeping what was saved -/

/-- The command neither saves the cursor again nor resets the terminal. -/
def Command.keepsSaved (command : Command) : Bool :=
  !command.savesCursor && command ≠ .reset

theorem saved_restoreCursor (terminal : Terminal) :
    terminal.restoreCursor.cursor.saved = terminal.cursor.saved := by
  rw [restoreCursor]
  split <;> rfl

theorem saved_setRegion (terminal : Terminal) (top bottom : Nat) :
    (terminal.setRegion top bottom).cursor.saved = terminal.cursor.saved := by
  simp only [setRegion, moveTo]
  split <;> rfl

theorem saved_set {switch : Switch} {on : Bool}
    (keeps : (Command.set switch on).savesCursor = false) :
    (terminal.set switch on).cursor.saved = terminal.cursor.saved := by
  cases switch with
  | autoWrap | insert | lineFeedNewLine | cursorShown => rfl
  | otherScreen => cases on <;> rfl
  | keptCursor | otherScreenKeepingCursor =>
      cases on with
      | false => exact saved_restoreCursor terminal
      | true => contradiction

theorem saved_apply {command : Command} (keeps : command.keepsSaved = true) :
    (terminal.apply command).cursor.saved = terminal.cursor.saved := by
  cases draws : command.isDrawing with
  | true => exact congrArg Setup.saved (setup_apply draws)
  | false =>
      cases command with
      | setRegion top bottom => exact saved_setRegion terminal top bottom
      | restoreCursor => exact saved_restoreCursor terminal
      | set switch on =>
          simp only [Command.keepsSaved, Bool.and_eq_true, Bool.not_eq_true'] at keeps
          exact saved_set keeps.1
      | restyle change => rfl
      | saveCursor | reset => contradiction
      | _ => contradiction

theorem saved_applyAll {commands : List Command}
    (keep : ∀ command ∈ commands, command.keepsSaved = true) :
    (terminal.applyAll commands).cursor.saved = terminal.cursor.saved := by
  induction commands generalizing terminal with
  | nil => rfl
  | cons command commands induction =>
      obtain ⟨here, later⟩ := List.forall_mem_cons.mp keep
      rw [applyAll_cons, induction later, saved_apply here]

/-! ## Restoring -/

/-- A saved place on the screen is where the cursor goes, with no wrap pending. -/
theorem restoreCursor_of_saved {saved : SavedCursor} (found : terminal.cursor.saved = some saved)
    (inside : terminal.size.Contains saved.position) :
    terminal.restoreCursor =
      { terminal with
        cursor := { terminal.cursor with position := saved.position, wrapPending := false }
        style := saved.style } := by
  have restored : terminal.restoreCursor =
      { terminal.moveTo saved.position.row saved.position.column with style := saved.style } := by
    rw [restoreCursor, found]
  rw [restored, moveTo_of_contains inside]

/--
However the cursor is saved, and whatever is done then short of saving it again or resetting the terminal,
restoring it leads back to the very place and style it was saved with, and no wrap is pending. Nothing
else changes, and restoring it once more changes nothing at all.
-/
theorem saved_cursor_survives (columns rows : UInt16) (inputs : List Console.Input)
    {save : Console.Input}
    (saves : ((Console.start ⟨columns.toNat, rows.toNat⟩).takeAll inputs).Saves save)
    {commands : List Command} (keep : ∀ command ∈ commands, command.keepsSaved = true) :
    let before := reached columns rows inputs
    let after := (reached columns rows (inputs ++ [save])).applyAll commands
    after.restoreCursor =
        { after with
          cursor := { after.cursor with position := before.cursor.position, wrapPending := false }
          style := before.style } ∧
      after.restoreCursor.restoreCursor = after.restoreCursor := by
  intro before after
  have wellFormed : before.WellFormed := reached_wellFormed columns rows inputs
  obtain ⟨command, saving, taken⟩ := saves.exists_command
  have after_eq : after = (before.apply command).applyAll commands := by
    simp only [after, reached, Console.takeAll, List.foldl_append]
    exact congrArg (applyAll · commands) taken
  have saved : after.cursor.saved = some ⟨before.cursor.position, before.style⟩ := by
    rw [after_eq, saved_applyAll keep, saved_apply_of_savesCursor saving]
  have size_eq : after.size = before.size := by
    rw [after_eq, ((wellFormed.apply command).applyAll commands).2, wellFormed.size_apply]
  have inside : after.size.Contains before.cursor.position := size_eq ▸ wellFormed.cursor_inside
  have restored := restoreCursor_of_saved saved inside
  refine ⟨restored, ?_⟩
  rw [restored]
  exact restoreCursor_of_saved saved inside

/-- The second screen, another region and another style do not touch what was saved. -/
theorem saved_cursor_survives_other_screen :
    let inputs : List Console.Input := [.command (.restyle (.bold true)), .text "ab\x1b[2;3H".toList]
    let commands : List Command :=
      [.set .otherScreen true, .setRegion 2 3, .restyle .plain, .print 'x', .restoreCursor,
        .cursorDown 9, .print 'y']
    let after := (reached 3 3 (inputs ++ [.text "\x1b7".toList])).applyAll commands
    after.cursor.position = ⟨2, 2⟩ ∧ after.cursor.wrapPending = true ∧
      after.restoreCursor =
        { after with
          cursor := { after.cursor with position := ⟨1, 2⟩, wrapPending := false }
          style := { bold := true } } := by
  intro inputs commands after
  have saves : ((Console.start ⟨3, 3⟩).takeAll inputs).Saves (.text "\x1b7".toList) :=
    .text (by decide) (by decide)
  have keep : ∀ command ∈ commands, command.keepsSaved = true := List.all_eq_true.mp (by decide)
  have position_eq : (reached 3 3 inputs).cursor.position = ⟨1, 2⟩ := by decide
  have style_eq : (reached 3 3 inputs).style = { bold := true } := by decide
  have restored := (saved_cursor_survives 3 3 inputs saves keep).1
  rw [position_eq, style_eq] at restored
  exact ⟨by decide, by decide, restored⟩

end RoguePilot.Terminal
