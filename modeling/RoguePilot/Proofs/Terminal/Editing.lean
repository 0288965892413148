import RoguePilot.Proofs.Screen.Content
import RoguePilot.Proofs.Terminal.Run

/-!
# Where scrolling and editing leave lines and cells

Scrolling and editing move one line or one cell at a time, as often as they are told to. The result is
described here at once: which line or which cell every place shows in the end. On every terminal that can
be reached the steps break no bound and end in what is described.
-/

namespace RoguePilot.Terminal

/-- A command leads from one terminal to another, carried out at once as well as step by step. -/
structure Leads (command : Command) (before after : Terminal) : Prop where
  /-- Carried out at once, the command ends there. -/
  apply_eq : before.apply command = after
  /-- Carried out on guarded machine numbers, a line or a cell at a time, it ends there as well. -/
  guarded_eq : Guarded.apply before command = .ok after

theorem reached_leads (columns rows : UInt16) (inputs : List Console.Input) (command : Command) :
    Leads command (reached columns rows inputs) ((reached columns rows inputs).apply command) where
  apply_eq := rfl
  guarded_eq :=
    Guarded.apply_eq_ok (reached_wellFormed columns rows inputs)
      (reached_fitsWords columns rows inputs) command

/-! ## Lines -/

/-- The lines from `first` to `last` are `count` places further up, and blank ones have come in below. -/
def LinesRaised (terminal : Terminal) (first last count : Nat) (lines : List Row) : Prop :=
  ∀ index, lines[index]? =
    if first ≤ index ∧ index ≤ last then
      if index + count ≤ last then terminal.screen.lines[index + count]? else some terminal.blankRow
    else terminal.screen.lines[index]?

/-- The lines from `first` to `last` are `count` places further down, and blank ones have come in above. -/
def LinesLowered (terminal : Terminal) (first last count : Nat) (lines : List Row) : Prop :=
  ∀ index, lines[index]? =
    if first ≤ index ∧ index ≤ last then
      if first + count ≤ index then terminal.screen.lines[index - count]? else some terminal.blankRow
    else terminal.screen.lines[index]?

namespace Placed

variable {terminal : Terminal} {first last : Nat}

theorem linesRaised (placed : terminal.Placed) (ordered : first ≤ last)
    (inside : last < terminal.size.rows) (count : Nat) :
    terminal.LinesRaised first last count
      (Stretch.pull first last count terminal.blankRow terminal.screen.lines) := by
  intro index
  exact Stretch.getElem?_pull ordered (placed.filled.length_eq ▸ inside)

theorem linesLowered (placed : terminal.Placed) (ordered : first ≤ last)
    (inside : last < terminal.size.rows) (count : Nat) :
    terminal.LinesLowered first last count
      (Stretch.push first last count terminal.blankRow terminal.screen.lines) := by
  intro index
  exact Stretch.getElem?_push ordered (placed.filled.length_eq ▸ inside)

end Placed

/--
Scrolling moves the lines of the region, and deleting and inserting lines moves those from the cursor to
the end of the region and sends the cursor to the first column. With the cursor outside the region,
deleting and inserting do nothing. Nothing else changes.
-/
theorem line_shifts_exact (columns rows : UInt16) (inputs : List Console.Input) (count : Nat) :
    let terminal := reached columns rows inputs
    let top := terminal.region.top
    let bottom := terminal.region.bottom
    (∃ lines, terminal.LinesRaised top bottom count lines ∧
      Leads (.scrollUp count) terminal (terminal.withLines lines)) ∧
    (∃ lines, terminal.LinesLowered top bottom count lines ∧
      Leads (.scrollDown count) terminal (terminal.withLines lines)) ∧
    if top ≤ terminal.row ∧ terminal.row ≤ bottom then
      (∃ lines, terminal.LinesRaised terminal.row bottom count lines ∧
        Leads (.deleteLines count) terminal ((terminal.withLines lines).moveTo terminal.row 0)) ∧
      (∃ lines, terminal.LinesLowered terminal.row bottom count lines ∧
        Leads (.insertLines count) terminal ((terminal.withLines lines).moveTo terminal.row 0))
    else
      Leads (.deleteLines count) terminal terminal ∧
      Leads (.insertLines count) terminal terminal := by
  intro terminal top bottom
  have wellFormed : terminal.WellFormed := reached_wellFormed columns rows inputs
  have leads (command : Command) : Leads command terminal (terminal.apply command) :=
    reached_leads columns rows inputs command
  have deleted := leads (.deleteLines count)
  have inserted := leads (.insertLines count)
  have contains_iff : terminal.region.contains terminal.row = true ↔
      top ≤ terminal.row ∧ terminal.row ≤ bottom := by
    rw [Region.contains, Bool.and_eq_true, decide_eq_true_eq, decide_eq_true_eq]
  refine ⟨⟨_, ?_, leads (.scrollUp count)⟩, ⟨_, ?_, leads (.scrollDown count)⟩, ?_⟩
  · exact wellFormed.linesRaised wellFormed.region_ordered wellFormed.region_inside count
  · exact wellFormed.linesLowered wellFormed.region_ordered wellFormed.region_inside count
  · split
    · next inside =>
      have contains := contains_iff.mpr inside
      rw [apply, deleteLines, if_pos contains] at deleted
      rw [apply, insertLines, if_pos contains] at inserted
      refine ⟨⟨_, ?_, deleted⟩, ⟨_, ?_, inserted⟩⟩
      · exact wellFormed.linesRaised inside.2 wellFormed.region_inside count
      · exact wellFormed.linesLowered inside.2 wellFormed.region_inside count
    · next outside =>
      have apart := mt contains_iff.mp outside
      rw [apply, deleteLines, if_neg apart] at deleted
      rw [apply, insertLines, if_neg apart] at inserted
      exact ⟨deleted, inserted⟩

/-! ## Cells -/

/-- The command makes the screen show the given content and changes nothing else. -/
def Redraws (terminal : Terminal) (command : Command) (content : Position → Option Cell) : Prop :=
  ∃ lines, (terminal.withLines lines).screen.Shows content ∧
    Leads command terminal (terminal.withLines lines)

theorem Leads.redraws {before after : Terminal} {command : Command}
    {content : Position → Option Cell} (leads : Leads command before after)
    (shows : after.screen.Shows content) (frame : before.withLines after.screen.lines = after) :
    before.Redraws command content := by
  refine ⟨after.screen.lines, ?_, ?_⟩
  · rwa [frame]
  · rwa [frame]

theorem Placed.shows {terminal : Terminal} (placed : terminal.Placed) :
    Screen.Shows ⟨terminal.size, terminal.screen.lines⟩ terminal.screen.cell? :=
  Screen.shows_cell? placed.filled

namespace WellFormed

variable {terminal : Terminal} (wellFormed : terminal.WellFormed)
include wellFormed

theorem shows_insertCells (count : Nat) :
    (terminal.insertCells count).screen.Shows
      (fun place =>
        if place.row = terminal.row ∧ terminal.column ≤ place.column then
          if place.column < terminal.column + count then some Cell.blank
          else terminal.screen.cell? ⟨place.row, place.column - count⟩
        else terminal.screen.cell? place) := by
  have column_lt : terminal.column < terminal.size.columns := wellFormed.cursor_inside.column_lt
  refine wellFormed.shows.modify (fun _ fits => fits.push (wellFormed.column_le fits)) ?_ ?_
  · intro cells length_eq shown column inside
    rw [Stretch.getElem?_push (by omega) (by omega), shown column inside,
      shown (column - count) (by omega)]
    grind
  · intro place apart
    exact if_neg fun hit => apart hit.1

theorem shows_deleteCells (count : Nat) :
    (terminal.deleteCells count).screen.Shows
      (fun place =>
        if place.row = terminal.row ∧ terminal.column ≤ place.column then
          if place.column + count < terminal.size.columns then
            terminal.screen.cell? ⟨place.row, place.column + count⟩
          else some Cell.blank
        else terminal.screen.cell? place) := by
  have column_lt : terminal.column < terminal.size.columns := wellFormed.cursor_inside.column_lt
  refine wellFormed.shows.modify (fun _ fits => fits.pull (wellFormed.column_le fits)) ?_ ?_
  · intro cells length_eq shown column inside
    rw [Stretch.getElem?_pull (by omega) (by omega), shown column inside]
    by_cases remains : column + count < terminal.size.columns
    · rw [shown (column + count) remains]
      grind
    · grind
  · intro place apart
    exact if_neg fun hit => apart hit.1

theorem shows_eraseCells (count : Nat) :
    (terminal.eraseCells count).screen.Shows
      (fun place =>
        if place.row = terminal.row ∧ terminal.column ≤ place.column ∧
            place.column < terminal.column + count then some Cell.blank
        else terminal.screen.cell? place) :=
  wellFormed.shows.blankCells terminal.row terminal.column fun _ => count

theorem shows_eraseLine_toEnd :
    (terminal.eraseLine .toEnd).screen.Shows
      (fun place =>
        if place.row = terminal.row ∧ terminal.column ≤ place.column then some Cell.blank
        else terminal.screen.cell? place) := by
  refine (wellFormed.shows.blankCells terminal.row terminal.column fun width =>
    width - terminal.column).of_eq ?_
  intro place inside
  have column_lt := inside.column_lt
  grind

theorem shows_eraseLine_toCursor :
    (terminal.eraseLine .toCursor).screen.Shows
      (fun place =>
        if place.row = terminal.row ∧ place.column ≤ terminal.column then some Cell.blank
        else terminal.screen.cell? place) := by
  refine (wellFormed.shows.blankCells terminal.row 0 fun _ => terminal.column + 1).of_eq ?_
  intro place inside
  grind

theorem shows_eraseDisplay_toEnd :
    (terminal.eraseDisplay .toEnd).screen.Shows
      (fun place =>
        if terminal.row < place.row ∨ place.row = terminal.row ∧ terminal.column ≤ place.column then
          some Cell.blank
        else terminal.screen.cell? place) := by
  refine (wellFormed.shows_eraseLine_toEnd.blankLines (terminal.row + 1) terminal.size.rows).of_eq ?_
  intro place inside
  have row_lt : place.row < terminal.size.rows := inside.row_lt
  grind

theorem shows_eraseDisplay_toCursor :
    (terminal.eraseDisplay .toCursor).screen.Shows
      (fun place =>
        if place.row < terminal.row ∨ place.row = terminal.row ∧ place.column ≤ terminal.column then
          some Cell.blank
        else terminal.screen.cell? place) := by
  refine ((wellFormed.shows.blankLines 0 terminal.row).blankCells terminal.row 0 fun _ =>
    terminal.column + 1).of_eq ?_
  intro place inside
  grind

end WellFormed

/--
Inserting and deleting cells moves the rest of the line of the cursor, and erasing moves nothing: from the
cursor on or up to it, in its line or on the screen, cells become blank. No other cell changes, and
nothing else does.
-/
theorem cell_edits_exact (columns rows : UInt16) (inputs : List Console.Input) (count : Nat) :
    let terminal := reached columns rows inputs
    let row := terminal.row
    let column := terminal.column
    let old := terminal.screen.cell?
    terminal.Redraws (.insertCells count) (fun place =>
      if place.row = row ∧ column ≤ place.column then
        if place.column < column + count then some Cell.blank
        else old ⟨place.row, place.column - count⟩
      else old place) ∧
    terminal.Redraws (.deleteCells count) (fun place =>
      if place.row = row ∧ column ≤ place.column then
        if place.column + count < terminal.size.columns then
          old ⟨place.row, place.column + count⟩
        else some Cell.blank
      else old place) ∧
    terminal.Redraws (.eraseCells count) (fun place =>
      if place.row = row ∧ column ≤ place.column ∧ place.column < column + count then
        some Cell.blank
      else old place) ∧
    terminal.Redraws (.eraseLine .toEnd) (fun place =>
      if place.row = row ∧ column ≤ place.column then some Cell.blank else old place) ∧
    terminal.Redraws (.eraseLine .toCursor) (fun place =>
      if place.row = row ∧ place.column ≤ column then some Cell.blank else old place) ∧
    terminal.Redraws (.eraseDisplay .toEnd) (fun place =>
      if row < place.row ∨ place.row = row ∧ column ≤ place.column then some Cell.blank
      else old place) ∧
    terminal.Redraws (.eraseDisplay .toCursor) (fun place =>
      if place.row < row ∨ place.row = row ∧ place.column ≤ column then some Cell.blank
      else old place) := by
  intro terminal row column old
  have wellFormed : terminal.WellFormed := reached_wellFormed columns rows inputs
  have leads (command : Command) : Leads command terminal (terminal.apply command) :=
    reached_leads columns rows inputs command
  exact
    ⟨(leads (.insertCells count)).redraws (wellFormed.shows_insertCells count) rfl,
      (leads (.deleteCells count)).redraws (wellFormed.shows_deleteCells count) rfl,
      (leads (.eraseCells count)).redraws (wellFormed.shows_eraseCells count) rfl,
      (leads (.eraseLine .toEnd)).redraws wellFormed.shows_eraseLine_toEnd rfl,
      (leads (.eraseLine .toCursor)).redraws wellFormed.shows_eraseLine_toCursor rfl,
      (leads (.eraseDisplay .toEnd)).redraws wellFormed.shows_eraseDisplay_toEnd rfl,
      (leads (.eraseDisplay .toCursor)).redraws wellFormed.shows_eraseDisplay_toCursor rfl⟩

end RoguePilot.Terminal
