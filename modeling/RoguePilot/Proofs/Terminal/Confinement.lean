import RoguePilot.Proofs.Terminal.Unwrapped

/-!
# Staying in the scroll region

Once the cursor is in the scroll region, drawing does not take it out again: printing, line feeds, moves
along the line, scrolling and editing keep to the lines of the region, for as long as the cursor is not
sent somewhere else. The lines above and below the region stay as they are.
-/

namespace RoguePilot.Terminal

/-- The command prints, feeds lines, moves along the line, scrolls, or edits at the cursor. -/
def Command.staysInRegion : Command → Bool
  | .print _ => true
  | .lineFeed => true
  | .carriageReturn => true
  | .backspace => true
  | .tab => true
  | .index => true
  | .nextLine => true
  | .reverseIndex => true
  | .cursorForward _ => true
  | .cursorBackward _ => true
  | .setColumn _ => true
  | .scrollUp _ => true
  | .scrollDown _ => true
  | .insertLines _ => true
  | .deleteLines _ => true
  | .insertCells _ => true
  | .deleteCells _ => true
  | .eraseCells _ => true
  | .eraseLine _ => true
  | _ => false

/-- The cursor is in a line of the scroll region. -/
structure InRegion (terminal : Terminal) : Prop where
  /-- It is not above the region. -/
  top_le : terminal.region.top ≤ terminal.row
  /-- It is not below the region. -/
  le_bottom : terminal.row ≤ terminal.region.bottom

/-- On the way from one terminal to another everything has happened in the scroll region. -/
structure Confines (before after : Terminal) : Prop where
  /-- The region is the same. -/
  region_eq : after.region = before.region
  /-- The cursor is in the region. -/
  inRegion : after.InRegion
  /-- The lines above and below the region are the same. -/
  line_eq (row : Nat) (outside : row < before.region.top ∨ before.region.bottom < row) :
    after.screen.lines[row]? = before.screen.lines[row]?

namespace Confines

variable {terminal before middle after : Terminal}

theorem refl (inRegion : terminal.InRegion) : Confines terminal terminal :=
  ⟨rfl, inRegion, fun _ _ => rfl⟩

theorem trans (first : Confines before middle) (second : Confines middle after) :
    Confines before after where
  region_eq := second.region_eq.trans first.region_eq
  inRegion := second.inRegion
  line_eq row outside := by
    rw [second.line_eq row (first.region_eq.symm ▸ outside), first.line_eq row outside]

/-! ## Steps -/

/-- The lines and the region stay, and so does the line of the cursor. -/
theorem of_screen_eq (inRegion : before.InRegion) (region_eq : after.region = before.region)
    (row_eq : after.row = before.row) (screen_eq : after.screen = before.screen) :
    Confines before after where
  region_eq := region_eq
  inRegion := by
    constructor
    · rw [region_eq, row_eq]
      exact inRegion.top_le
    · rw [region_eq, row_eq]
      exact inRegion.le_bottom
  line_eq _ _ := by rw [screen_eq]

theorem withLines (inRegion : terminal.InRegion) {lines : List Row}
    (line_eq : ∀ row, row < terminal.region.top ∨ terminal.region.bottom < row →
      lines[row]? = terminal.screen.lines[row]?) :
    Confines terminal (terminal.withLines lines) :=
  ⟨rfl, ⟨inRegion.top_le, inRegion.le_bottom⟩, line_eq⟩

theorem modifyRow (inRegion : terminal.InRegion) (change : Row → Row) :
    Confines terminal (terminal.modifyRow change) := by
  refine withLines inRegion fun row outside => List.getElem?_modify_ne _ _ ?_
  have top_le := inRegion.top_le
  have le_bottom := inRegion.le_bottom
  omega

section Moves

variable (placed : terminal.Placed) (inRegion : terminal.InRegion)
include placed inRegion

/-- A move along the line. -/
theorem moveTo (column : Nat) : Confines terminal (terminal.moveTo terminal.row column) := by
  have row_lt : terminal.row < terminal.size.rows := placed.cursor_inside.row_lt
  have row_eq : min terminal.row (terminal.size.rows - 1) = terminal.row :=
    Nat.min_eq_left (by omega)
  exact of_screen_eq inRegion rfl row_eq rfl

/-- Lines from somewhere in the region to its bottom move up. -/
theorem pull {first : Nat} (top_le : terminal.region.top ≤ first)
    (le_bottom : first ≤ terminal.region.bottom) (count : Nat) :
    Confines terminal (terminal.withLines
      (Stretch.pull first terminal.region.bottom count terminal.blankRow terminal.screen.lines)) := by
  refine withLines inRegion fun row outside => ?_
  have elsewhere : ¬(first ≤ row ∧ row ≤ terminal.region.bottom) := by omega
  rw [placed.linesRaised le_bottom placed.region_inside count row, if_neg elsewhere]

/-- Lines from somewhere in the region to its bottom move down. -/
theorem push {first : Nat} (top_le : terminal.region.top ≤ first)
    (le_bottom : first ≤ terminal.region.bottom) (count : Nat) :
    Confines terminal (terminal.withLines
      (Stretch.push first terminal.region.bottom count terminal.blankRow terminal.screen.lines)) := by
  refine withLines inRegion fun row outside => ?_
  have elsewhere : ¬(first ≤ row ∧ row ≤ terminal.region.bottom) := by omega
  rw [placed.linesLowered le_bottom placed.region_inside count row, if_neg elsewhere]

theorem scrollUp (count : Nat) : Confines terminal (terminal.scrollUp count) :=
  pull placed inRegion (Nat.le_refl _) placed.region_ordered count

theorem scrollDown (count : Nat) : Confines terminal (terminal.scrollDown count) :=
  push placed inRegion (Nat.le_refl _) placed.region_ordered count

/-- The next line is in the region unless the cursor is in the last one, and there the region scrolls. -/
theorem index : Confines terminal terminal.index := by
  have settled : Confines terminal terminal.settle := of_screen_eq inRegion rfl rfl rfl
  simp only [Terminal.index]
  split
  · exact settled.trans (scrollUp placed.settle.toPlaced settled.inRegion 1)
  · next above_bottom =>
    have top_le := settled.inRegion.top_le
    have le_bottom := settled.inRegion.le_bottom
    split
    · refine ⟨rfl, ⟨?_, ?_⟩, fun _ _ => rfl⟩
      · change terminal.settle.region.top ≤ terminal.settle.row + 1
        omega
      · change terminal.settle.row + 1 ≤ terminal.settle.region.bottom
        omega
    · exact settled

/-- The line before is in the region unless the cursor is in the first one. -/
theorem reverseIndex : Confines terminal terminal.reverseIndex := by
  have settled : Confines terminal terminal.settle := of_screen_eq inRegion rfl rfl rfl
  simp only [Terminal.reverseIndex]
  split
  · exact settled.trans (scrollDown placed.settle.toPlaced settled.inRegion 1)
  · next below_top =>
    have top_le := settled.inRegion.top_le
    have le_bottom := settled.inRegion.le_bottom
    split
    · refine ⟨rfl, ⟨?_, ?_⟩, fun _ _ => rfl⟩
      · change terminal.settle.region.top ≤ terminal.settle.row - 1
        omega
      · change terminal.settle.row - 1 ≤ terminal.settle.region.bottom
        omega
    · exact settled

theorem nextLine : Confines terminal terminal.nextLine := by
  have returned : Confines terminal terminal.toFirstColumn := of_screen_eq inRegion rfl rfl rfl
  exact returned.trans (index placed.toFirstColumn returned.inRegion)

theorem lineFeed : Confines terminal terminal.lineFeed := by
  rw [Terminal.lineFeed]
  split
  · exact nextLine placed inRegion
  · exact index placed inRegion

theorem insertLines (count : Nat) : Confines terminal (terminal.insertLines count) := by
  rw [Terminal.insertLines]
  split
  · next inside =>
    have moved := push placed inRegion inRegion.top_le inRegion.le_bottom count
    have ordered := Nat.le_succ_of_le (le_bottom_of_contains inside)
    exact moved.trans (moveTo (placed.withLines (placed.filled.push ordered)) moved.inRegion 0)
  · exact refl inRegion

theorem deleteLines (count : Nat) : Confines terminal (terminal.deleteLines count) := by
  rw [Terminal.deleteLines]
  split
  · next inside =>
    have moved := pull placed inRegion inRegion.top_le inRegion.le_bottom count
    have ordered := Nat.le_succ_of_le (le_bottom_of_contains inside)
    exact moved.trans (moveTo (placed.withLines (placed.filled.pull ordered)) moved.inRegion 0)
  · exact refl inRegion

/-- A glyph is written in the region, after the wrap that was to come. -/
theorem print (glyph : Char) : Confines terminal (terminal.print glyph) := by
  have writes {start : Terminal} (here : start.InRegion) :
      Confines start (start.write glyph).advance := by
    have written : Confines start (start.write glyph) := modifyRow here _
    have region_eq : (start.write glyph).advance.region = (start.write glyph).region :=
      congrArg Setup.region (setup_advance (start.write glyph))
    exact written.trans
      (of_screen_eq written.inRegion region_eq (row_advance _) (screen_advance _))
  by_cases takes : Text.takesCell glyph = true
  · cases pending : terminal.cursor.wrapPending with
    | false =>
        rw [print_of_settled pending takes]
        exact writes inRegion
    | true =>
        have wrapped := nextLine placed inRegion
        rw [print_of_pending pending takes]
        exact wrapped.trans (writes wrapped.inRegion)
  · rw [print_of_not_takesCell takes]
    exact refl inRegion

theorem apply {command : Command} (stays : command.staysInRegion = true) :
    Confines terminal (terminal.apply command) := by
  cases command with
  | print glyph => exact print placed inRegion glyph
  | lineFeed => exact lineFeed placed inRegion
  | index => exact index placed inRegion
  | reverseIndex => exact reverseIndex placed inRegion
  | nextLine => exact nextLine placed inRegion
  | scrollUp count => exact scrollUp placed inRegion count
  | scrollDown count => exact scrollDown placed inRegion count
  | insertLines count => exact insertLines placed inRegion count
  | deleteLines count => exact deleteLines placed inRegion count
  | insertCells | deleteCells | eraseCells => exact modifyRow inRegion _
  | eraseLine extent => cases extent <;> exact modifyRow inRegion _
  | carriageReturn | backspace | tab | cursorForward | cursorBackward | setColumn =>
      exact moveTo placed inRegion _
  | cursorUp | cursorDown | setPosition | setRow | eraseDisplay | setRegion | saveCursor
  | restoreCursor | set | restyle | reset => contradiction

end Moves

/-! ## Runs -/

theorem applyAll (wellFormed : terminal.WellFormed) (inRegion : terminal.InRegion)
    {commands : List Command} (stay : ∀ command ∈ commands, command.staysInRegion = true) :
    Confines terminal (terminal.applyAll commands) := by
  induction commands generalizing terminal with
  | nil => exact refl inRegion
  | cons command commands induction =>
      obtain ⟨here, later⟩ := List.forall_mem_cons.mp stay
      have step := apply wellFormed.toPlaced inRegion here
      exact step.trans (induction (wellFormed.apply command) step.inRegion later)

end Confines

/--
While the cursor is in the scroll region, printing, line feeds, moves along the line, scrolling and
editing keep it there, leave the region as it is and change no line above or below it, at every moment
of the run.
-/
theorem scroll_region_confines (columns rows : UInt16) (inputs : List Console.Input)
    (inRegion : (reached columns rows inputs).InRegion) {commands : List Command}
    (stay : ∀ command ∈ commands, command.staysInRegion = true) :
    ∀ first, first <+: commands →
      Confines (reached columns rows inputs) ((reached columns rows inputs).applyAll first) := by
  intro first begins
  have wellFormed := reached_wellFormed columns rows inputs
  exact Confines.applyAll wellFormed inRegion fun command member =>
    stay command (begins.subset member)

/-- A wrap in the last line of a region of two lines scrolls these two only. -/
theorem scroll_region_confines_wrap :
    let terminal := reached 2 4 [.text "a\nb\nc\nd\x1b[2;3r\x1b[3;1Hef".toList]
    let commands : List Command := [.print 'g', .reverseIndex, .reverseIndex, .deleteLines 9]
    terminal.InRegion ∧ terminal.cursor.wrapPending = true ∧
      terminal.screen ≠ (terminal.applyAll [.print 'g']).screen ∧
      ∀ first, first <+: commands → Confines terminal (terminal.applyAll first) := by
  intro terminal commands
  have inRegion : terminal.InRegion := ⟨by decide, by decide⟩
  have stay : ∀ command ∈ commands, command.staysInRegion = true := List.all_eq_true.mp (by decide)
  exact ⟨inRegion, by decide, by decide, scroll_region_confines 2 4 _ inRegion stay⟩

end RoguePilot.Terminal
