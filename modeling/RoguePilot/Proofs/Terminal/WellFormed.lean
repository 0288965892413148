import RoguePilot.Proofs.Screen.Stretch
import RoguePilot.Terminal.Interpreter

/-!
# Well-formed terminals

A terminal is well-formed if its lines fill its extent with drawable glyphs and everything that
points at the screen points inside it. Every command keeps a terminal well-formed. Between the two
halves of a wrap the cursor has already left the last column while the wrap is still pending, so the
invariant comes in two strengths: a placed terminal may be in that moment, a well-formed one is not.
-/

namespace RoguePilot

/-! ## Lines that fill an extent -/

/-- A line of the given width in which every glyph takes a cell. -/
structure Row.Fits (width : Nat) (row : Row) : Prop where
  /-- The line is as wide as the screen. -/
  length_eq : row.length = width
  /-- No glyph is a control character or without width. -/
  drawable : ∀ cell ∈ row, Text.takesCell cell.glyph = true

/-- Lines that fill the given extent. -/
structure Size.FilledBy (size : Size) (lines : List Row) : Prop where
  /-- There are as many lines as the screen is high. -/
  length_eq : lines.length = size.rows
  /-- Each line fits the width of the screen. -/
  fits : ∀ row ∈ lines, Row.Fits size.columns row

/-- The place lies inside the extent. -/
structure Size.Contains (size : Size) (place : Position) : Prop where
  /-- The line exists. -/
  row_lt : place.row < size.rows
  /-- The cell exists. -/
  column_lt : place.column < size.columns

/-- An extent with a line and a column needs no correction. -/
theorem Size.atLeastOne_eq {size : Size} (columns_pos : 0 < size.columns) (rows_pos : 0 < size.rows) :
    size.atLeastOne = size := by
  simp only [Size.atLeastOne, Nat.max_eq_left columns_pos, Nat.max_eq_left rows_pos]

theorem takesCell_blank : Text.takesCell Cell.blank.glyph = true := by decide

namespace Row.Fits

variable {width first last count : Nat} {row : Row}

theorem blank (width : Nat) : Row.Fits width (Row.blank width) where
  length_eq := List.length_replicate
  drawable cell member := by
    rw [List.eq_of_mem_replicate member]
    exact takesCell_blank

/-- A change of the same width that adds nothing but blank cells keeps a line fitting. -/
theorem of_mem_blank (fits : Row.Fits width row) {changed : Row}
    (length_eq : changed.length = row.length)
    (members : ∀ cell ∈ changed, cell = Cell.blank ∨ cell ∈ row) : Row.Fits width changed where
  length_eq := length_eq.trans fits.length_eq
  drawable cell member := by
    rcases members cell member with rfl | old
    · exact takesCell_blank
    · exact fits.drawable cell old

theorem pull (fits : Row.Fits width row) (ordered : first ≤ last + 1) :
    Row.Fits width (Stretch.pull first last count Cell.blank row) :=
  fits.of_mem_blank (Stretch.length_pull ordered) fun _ => Stretch.mem_of_mem_pull

theorem push (fits : Row.Fits width row) (ordered : first ≤ last + 1) :
    Row.Fits width (Stretch.push first last count Cell.blank row) :=
  fits.of_mem_blank (Stretch.length_push ordered) fun _ => Stretch.mem_of_mem_push

theorem fill (fits : Row.Fits width row) :
    Row.Fits width (Stretch.fill first count Cell.blank row) :=
  fits.of_mem_blank (Stretch.length_fill first count Cell.blank row) fun _ =>
    Stretch.mem_of_mem_fill

theorem set (fits : Row.Fits width row) (column : Nat) {cell : Cell}
    (takes : Text.takesCell cell.glyph = true) : Row.Fits width (row.set column cell) where
  length_eq := by rw [List.length_set, fits.length_eq]
  drawable other member := by
    rcases List.mem_or_eq_of_mem_set member with old | rfl
    · exact fits.drawable other old
    · exact takes

end Row.Fits

namespace Size.FilledBy

variable {size : Size} {first last count : Nat} {lines : List Row}

theorem blank (size : Size) :
    size.FilledBy (List.replicate size.rows (Row.blank size.columns)) where
  length_eq := List.length_replicate
  fits row member := by
    rw [List.eq_of_mem_replicate member]
    exact Row.Fits.blank size.columns

/-- A change of the same height that adds nothing but blank lines keeps the extent filled. -/
theorem of_mem_blank (filled : size.FilledBy lines) {changed : List Row}
    (length_eq : changed.length = lines.length)
    (members : ∀ row ∈ changed, row = Row.blank size.columns ∨ row ∈ lines) :
    size.FilledBy changed where
  length_eq := length_eq.trans filled.length_eq
  fits row member := by
    rcases members row member with rfl | old
    · exact Row.Fits.blank size.columns
    · exact filled.fits row old

theorem pull (filled : size.FilledBy lines) (ordered : first ≤ last + 1) :
    size.FilledBy (Stretch.pull first last count (Row.blank size.columns) lines) :=
  filled.of_mem_blank (Stretch.length_pull ordered) fun _ => Stretch.mem_of_mem_pull

theorem push (filled : size.FilledBy lines) (ordered : first ≤ last + 1) :
    size.FilledBy (Stretch.push first last count (Row.blank size.columns) lines) :=
  filled.of_mem_blank (Stretch.length_push ordered) fun _ => Stretch.mem_of_mem_push

theorem fill (filled : size.FilledBy lines) :
    size.FilledBy (Stretch.fill first count (Row.blank size.columns) lines) :=
  filled.of_mem_blank (Stretch.length_fill first count _ lines) fun _ => Stretch.mem_of_mem_fill

theorem modify (filled : size.FilledBy lines) (index : Nat) {change : Row → Row}
    (keeps : ∀ row, Row.Fits size.columns row → Row.Fits size.columns (change row)) :
    size.FilledBy (lines.modify index change) where
  length_eq := by rw [List.length_modify, filled.length_eq]
  fits row member := by
    obtain ⟨place, inside, rfl⟩ := List.mem_iff_getElem.mp member
    rw [List.length_modify] at inside
    have old := filled.fits lines[place] (List.getElem_mem inside)
    rw [List.getElem_modify]
    split
    · exact keeps _ old
    · exact old

end Size.FilledBy

namespace Terminal

/-! ## The invariant -/

/-- The lines fill the extent, and the cursor, what was saved of it and the region lie inside. -/
structure Placed (terminal : Terminal) : Prop where
  /-- There is a column. -/
  columns_pos : 0 < terminal.size.columns
  /-- There is a line. -/
  rows_pos : 0 < terminal.size.rows
  /-- The lines fill the extent. -/
  filled : terminal.size.FilledBy terminal.screen.lines
  /-- The cursor is on the screen. -/
  cursor_inside : terminal.size.Contains terminal.cursor.position
  /-- What was saved of the cursor is on the screen. -/
  saved_inside : ∀ saved ∈ terminal.cursor.saved, terminal.size.Contains saved.position
  /-- The region has a line. -/
  region_ordered : terminal.region.top ≤ terminal.region.bottom
  /-- The region is on the screen. -/
  region_inside : terminal.region.bottom < terminal.size.rows

/-- A placed terminal on which a wrap is only pending in the last column. -/
structure WellFormed (terminal : Terminal) : Prop extends Placed terminal where
  /-- A wrap is only pending in the last column. -/
  wrap_at_end : terminal.cursor.wrapPending = true → terminal.column + 1 = terminal.size.columns

/-! ## The extent never changes -/

section Extent

variable (terminal : Terminal)

@[simp] theorem size_withLines (lines : List Row) :
    (terminal.withLines lines).size = terminal.size := rfl

@[simp] theorem size_modifyRow (change : Row → Row) :
    (terminal.modifyRow change).size = terminal.size := rfl

@[simp] theorem size_moveTo (row column : Nat) :
    (terminal.moveTo row column).size = terminal.size := rfl

@[simp] theorem size_settle : terminal.settle.size = terminal.size := rfl

@[simp] theorem size_inRow (row : Nat) : (terminal.inRow row).size = terminal.size := rfl

@[simp] theorem size_toFirstColumn : terminal.toFirstColumn.size = terminal.size := rfl

@[simp] theorem size_scrollUp (count : Nat) :
    (terminal.scrollUp count).size = terminal.size := rfl

@[simp] theorem size_scrollDown (count : Nat) :
    (terminal.scrollDown count).size = terminal.size := rfl

@[simp] theorem size_saveCursor : terminal.saveCursor.size = terminal.size := rfl

@[simp] theorem size_write (glyph : Char) : (terminal.write glyph).size = terminal.size := rfl

@[simp] theorem size_restoreCursor : terminal.restoreCursor.size = terminal.size := by
  unfold restoreCursor
  split <;> rfl

@[simp] theorem size_index : terminal.index.size = terminal.size := by
  simp only [index]
  split
  · rfl
  · split <;> rfl

@[simp] theorem size_reverseIndex : terminal.reverseIndex.size = terminal.size := by
  simp only [reverseIndex]
  split
  · rfl
  · split <;> rfl

@[simp] theorem size_nextLine : terminal.nextLine.size = terminal.size := by
  simp [nextLine]

@[simp] theorem size_lineFeed : terminal.lineFeed.size = terminal.size := by
  unfold lineFeed
  split <;> simp

@[simp] theorem size_advance : terminal.advance.size = terminal.size := by
  unfold advance
  split
  · rfl
  · split <;> rfl

@[simp] theorem size_print (glyph : Char) : (terminal.print glyph).size = terminal.size := by
  simp only [print]
  split
  · rw [size_advance, size_write]
    split <;> simp
  · rfl

@[simp] theorem size_setRegion (top bottom : Nat) :
    (terminal.setRegion top bottom).size = terminal.size := by
  simp only [setRegion, size_moveTo]
  split <;> rfl

@[simp] theorem size_eraseLine (extent : Extent) :
    (terminal.eraseLine extent).size = terminal.size := by
  cases extent <;> rfl

@[simp] theorem size_eraseDisplay (extent : Extent) :
    (terminal.eraseDisplay extent).size = terminal.size := by
  cases extent <;> simp [eraseDisplay]

@[simp] theorem size_insertLines (count : Nat) :
    (terminal.insertLines count).size = terminal.size := by
  unfold insertLines
  split <;> rfl

@[simp] theorem size_deleteLines (count : Nat) :
    (terminal.deleteLines count).size = terminal.size := by
  unfold deleteLines
  split <;> rfl

@[simp] theorem size_insertCells (count : Nat) :
    (terminal.insertCells count).size = terminal.size := rfl

@[simp] theorem size_deleteCells (count : Nat) :
    (terminal.deleteCells count).size = terminal.size := rfl

@[simp] theorem size_eraseCells (count : Nat) :
    (terminal.eraseCells count).size = terminal.size := rfl

@[simp] theorem size_withModes (modes : Modes) :
    (terminal.withModes modes).size = terminal.size := rfl

@[simp] theorem size_set (switch : Switch) (on : Bool) :
    (terminal.set switch on).size = terminal.size := by
  cases switch <;> cases on <;> simp [set]

end Extent

/-! ## Changes of the lines -/

theorem le_bottom_of_contains {terminal : Terminal}
    (inside : terminal.region.contains terminal.row = true) :
    terminal.row ≤ terminal.region.bottom := by
  simp only [Region.contains, Bool.and_eq_true, decide_eq_true_eq] at inside
  exact inside.2

namespace Placed

variable {terminal : Terminal}

/-- Every line of the screen has a cell in the column of the cursor. -/
theorem column_lt_length (placed : terminal.Placed) {row : Row}
    (fits : Row.Fits terminal.size.columns row) : terminal.column < row.length := by
  rw [fits.length_eq]
  exact placed.cursor_inside.column_lt

theorem withLines (placed : terminal.Placed) {lines : List Row}
    (filled : terminal.size.FilledBy lines) : (terminal.withLines lines).Placed :=
  { placed with filled }

theorem scrollUp (placed : terminal.Placed) (count : Nat) : (terminal.scrollUp count).Placed :=
  placed.withLines (placed.filled.pull (Nat.le_succ_of_le placed.region_ordered))

theorem scrollDown (placed : terminal.Placed) (count : Nat) :
    (terminal.scrollDown count).Placed :=
  placed.withLines (placed.filled.push (Nat.le_succ_of_le placed.region_ordered))

end Placed

namespace WellFormed

variable {terminal : Terminal}

theorem withLines (wellFormed : terminal.WellFormed) {lines : List Row}
    (filled : terminal.size.FilledBy lines) : (terminal.withLines lines).WellFormed :=
  { wellFormed.toPlaced.withLines filled with wrap_at_end := wellFormed.wrap_at_end }

theorem scrollUp (wellFormed : terminal.WellFormed) (count : Nat) :
    (terminal.scrollUp count).WellFormed :=
  { wellFormed.toPlaced.scrollUp count with wrap_at_end := wellFormed.wrap_at_end }

theorem scrollDown (wellFormed : terminal.WellFormed) (count : Nat) :
    (terminal.scrollDown count).WellFormed :=
  { wellFormed.toPlaced.scrollDown count with wrap_at_end := wellFormed.wrap_at_end }

theorem modifyRow (wellFormed : terminal.WellFormed) {change : Row → Row}
    (keeps : ∀ row, Row.Fits terminal.size.columns row →
      Row.Fits terminal.size.columns (change row)) :
    (terminal.modifyRow change).WellFormed :=
  wellFormed.withLines (wellFormed.filled.modify terminal.row keeps)

/-- The cursor's cell and the last one bound a stretch of every line of the screen. -/
theorem column_le (wellFormed : terminal.WellFormed) {row : Row}
    (fits : Row.Fits terminal.size.columns row) : terminal.column ≤ row.length - 1 + 1 := by
  have inside := wellFormed.toPlaced.column_lt_length fits
  omega

theorem insertCells (wellFormed : terminal.WellFormed) (count : Nat) :
    (terminal.insertCells count).WellFormed :=
  wellFormed.modifyRow fun _ fits => fits.push (wellFormed.column_le fits)

theorem deleteCells (wellFormed : terminal.WellFormed) (count : Nat) :
    (terminal.deleteCells count).WellFormed :=
  wellFormed.modifyRow fun _ fits => fits.pull (wellFormed.column_le fits)

theorem eraseCells (wellFormed : terminal.WellFormed) (count : Nat) :
    (terminal.eraseCells count).WellFormed :=
  wellFormed.modifyRow fun _ fits => fits.fill

theorem eraseLine (wellFormed : terminal.WellFormed) (extent : Extent) :
    (terminal.eraseLine extent).WellFormed := by
  cases extent with
  | toEnd => exact wellFormed.modifyRow fun _ fits => fits.fill
  | toCursor => exact wellFormed.modifyRow fun _ fits => fits.fill
  | all => exact wellFormed.modifyRow fun _ fits => fits.fill

theorem write (wellFormed : terminal.WellFormed) {glyph : Char}
    (takes : Text.takesCell glyph = true) : (terminal.write glyph).WellFormed :=
  wellFormed.modifyRow fun _ fits => fits.set terminal.column takes

end WellFormed

/-! ## Moves of the cursor -/

theorem Placed.moveTo {terminal : Terminal} (placed : terminal.Placed) (row column : Nat) :
    (terminal.moveTo row column).WellFormed := by
  have columns_pos := placed.columns_pos
  have rows_pos := placed.rows_pos
  refine
    { placed with
      cursor_inside := ⟨?_, ?_⟩
      wrap_at_end := fun pending => nomatch pending }
  · change min row (terminal.size.rows - 1) < terminal.size.rows
    omega
  · change min column (terminal.size.columns - 1) < terminal.size.columns
    omega

/-- A move to a place of the screen is not cut. -/
theorem moveTo_of_contains {terminal : Terminal} {place : Position}
    (inside : terminal.size.Contains place) :
    terminal.moveTo place.row place.column =
      { terminal with
        cursor := { terminal.cursor with position := place, wrapPending := false } } := by
  have row_lt := inside.row_lt
  have column_lt := inside.column_lt
  have row_eq : min place.row (terminal.size.rows - 1) = place.row := Nat.min_eq_left (by omega)
  have column_eq : min place.column (terminal.size.columns - 1) = place.column :=
    Nat.min_eq_left (by omega)
  rw [moveTo, row_eq, column_eq]

theorem Placed.settle {terminal : Terminal} (placed : terminal.Placed) :
    terminal.settle.WellFormed :=
  { placed with wrap_at_end := fun pending => nomatch pending }

theorem Placed.toFirstColumn {terminal : Terminal} (placed : terminal.Placed) :
    terminal.toFirstColumn.Placed :=
  { placed with cursor_inside := ⟨placed.cursor_inside.row_lt, placed.columns_pos⟩ }

theorem WellFormed.inRow {terminal : Terminal} (wellFormed : terminal.WellFormed) {row : Nat}
    (inside : row < terminal.size.rows) : (terminal.inRow row).WellFormed :=
  { wellFormed with cursor_inside := ⟨inside, wellFormed.cursor_inside.column_lt⟩ }

theorem Placed.index {terminal : Terminal} (placed : terminal.Placed) :
    terminal.index.WellFormed := by
  have settled := placed.settle
  simp only [Terminal.index]
  split
  · exact settled.scrollUp 1
  · split
    · next before_last =>
      exact settled.inRow (by omega)
    · exact settled

theorem Placed.reverseIndex {terminal : Terminal} (placed : terminal.Placed) :
    terminal.reverseIndex.WellFormed := by
  have settled := placed.settle
  have row_lt : terminal.settle.row < terminal.settle.size.rows := settled.cursor_inside.row_lt
  simp only [Terminal.reverseIndex]
  split
  · exact settled.scrollDown 1
  · split
    · exact settled.inRow (by omega)
    · exact settled

theorem Placed.nextLine {terminal : Terminal} (placed : terminal.Placed) :
    terminal.nextLine.WellFormed :=
  placed.toFirstColumn.index

theorem Placed.lineFeed {terminal : Terminal} (placed : terminal.Placed) :
    terminal.lineFeed.WellFormed := by
  unfold Terminal.lineFeed
  split
  · exact placed.nextLine
  · exact placed.index

theorem WellFormed.advance {terminal : Terminal} (wellFormed : terminal.WellFormed) :
    terminal.advance.WellFormed := by
  have column_lt : terminal.column < terminal.size.columns := wellFormed.cursor_inside.column_lt
  unfold Terminal.advance
  split
  · next before_end =>
    refine
      { wellFormed with
        cursor_inside := ⟨wellFormed.cursor_inside.row_lt, before_end⟩
        wrap_at_end := ?_ }
    intro pending
    -- Before the last column no wrap is pending.
    have at_end := wellFormed.wrap_at_end pending
    omega
  · next at_end =>
    split
    · refine { wellFormed with wrap_at_end := ?_ }
      intro _
      change terminal.column + 1 = terminal.size.columns
      omega
    · exact wellFormed

namespace WellFormed

variable {terminal : Terminal}

theorem print (wellFormed : terminal.WellFormed) (glyph : Char) :
    (terminal.print glyph).WellFormed := by
  simp only [Terminal.print]
  split
  · next takes =>
    split
    · exact (wellFormed.nextLine.write takes).advance
    · exact (wellFormed.write takes).advance
  · exact wellFormed

theorem saveCursor (wellFormed : terminal.WellFormed) : terminal.saveCursor.WellFormed := by
  refine { wellFormed with saved_inside := ?_ }
  intro saved member
  obtain rfl : ⟨terminal.cursor.position, terminal.style⟩ = saved := Option.some.inj member
  exact wellFormed.cursor_inside

theorem restyle (wellFormed : terminal.WellFormed) (style : Style) :
    { terminal with style }.WellFormed :=
  { wellFormed with }

theorem withModes (wellFormed : terminal.WellFormed) (modes : Modes) :
    (terminal.withModes modes).WellFormed :=
  { wellFormed with }

theorem restoreCursor (wellFormed : terminal.WellFormed) :
    terminal.restoreCursor.WellFormed := by
  unfold Terminal.restoreCursor
  split
  · exact wellFormed
  · exact (wellFormed.moveTo _ _).restyle _

theorem withRegion (wellFormed : terminal.WellFormed) {region : Region}
    (ordered : region.top < region.bottom) (inside : region.bottom < terminal.size.rows) :
    { terminal with region }.WellFormed :=
  { wellFormed with region_ordered := Nat.le_of_lt ordered, region_inside := inside }

theorem setRegion (wellFormed : terminal.WellFormed) (top bottom : Nat) :
    (terminal.setRegion top bottom).WellFormed := by
  have rows_pos := wellFormed.rows_pos
  have inside : min (bottom - 1) (terminal.size.rows - 1) < terminal.size.rows := by omega
  simp only [Terminal.setRegion]
  split
  · next ordered => exact (wellFormed.withRegion ordered inside).moveTo 0 0
  · exact wellFormed.moveTo 0 0

theorem eraseDisplay (wellFormed : terminal.WellFormed) (extent : Extent) :
    (terminal.eraseDisplay extent).WellFormed := by
  cases extent with
  | toEnd =>
      have erased := wellFormed.eraseLine .toEnd
      exact erased.withLines erased.filled.fill
  | toCursor => exact (wellFormed.withLines wellFormed.filled.fill).eraseLine .toCursor
  | all => exact (wellFormed.withLines wellFormed.filled.fill).moveTo 0 0

theorem insertLines (wellFormed : terminal.WellFormed) (count : Nat) :
    (terminal.insertLines count).WellFormed := by
  unfold Terminal.insertLines
  split
  · next inside =>
    have ordered := Nat.le_succ_of_le (le_bottom_of_contains inside)
    exact (wellFormed.withLines (wellFormed.filled.push ordered)).moveTo _ _
  · exact wellFormed

theorem deleteLines (wellFormed : terminal.WellFormed) (count : Nat) :
    (terminal.deleteLines count).WellFormed := by
  unfold Terminal.deleteLines
  split
  · next inside =>
    have ordered := Nat.le_succ_of_le (le_bottom_of_contains inside)
    exact (wellFormed.withLines (wellFormed.filled.pull ordered)).moveTo _ _
  · exact wellFormed

theorem set (wellFormed : terminal.WellFormed) (switch : Switch) (on : Bool) :
    (terminal.set switch on).WellFormed := by
  cases switch with
  | autoWrap => exact wellFormed.withModes _
  | insert => exact wellFormed.withModes _
  | lineFeedNewLine => exact wellFormed.withModes _
  | cursorShown => exact wellFormed
  | otherScreen =>
      cases on with
      | true => exact wellFormed.eraseDisplay .all
      | false => exact wellFormed
  | keptCursor =>
      cases on with
      | true => exact wellFormed.saveCursor
      | false => exact wellFormed.restoreCursor
  | otherScreenKeepingCursor =>
      cases on with
      | true => exact wellFormed.saveCursor.eraseDisplay .all
      | false => exact wellFormed.restoreCursor

end WellFormed

/-! ## Runs -/

theorem start_wellFormed (size : Size) : (start size).WellFormed := by
  have columns_pos : 0 < size.atLeastOne.columns := Nat.le_max_right size.columns 1
  have rows_pos : 0 < size.atLeastOne.rows := Nat.le_max_right size.rows 1
  exact
    { columns_pos
      rows_pos
      filled := Size.FilledBy.blank size.atLeastOne
      cursor_inside := ⟨rows_pos, columns_pos⟩
      saved_inside := fun _ member => nomatch member
      region_ordered := Nat.zero_le _
      region_inside := Nat.sub_lt rows_pos Nat.zero_lt_one
      wrap_at_end := fun pending => nomatch pending }

variable {terminal : Terminal}

theorem WellFormed.atLeastOne_size (wellFormed : terminal.WellFormed) :
    terminal.size.atLeastOne = terminal.size :=
  Size.atLeastOne_eq wellFormed.columns_pos wellFormed.rows_pos

theorem WellFormed.apply (wellFormed : terminal.WellFormed) (command : Command) :
    (terminal.apply command).WellFormed := by
  cases command with
  | print glyph => exact wellFormed.print glyph
  | carriageReturn => exact wellFormed.moveTo _ _
  | lineFeed => exact wellFormed.lineFeed
  | index => exact wellFormed.index
  | reverseIndex => exact wellFormed.reverseIndex
  | nextLine => exact wellFormed.nextLine
  | backspace => exact wellFormed.moveTo _ _
  | tab => exact wellFormed.moveTo _ _
  | scrollUp count => exact wellFormed.scrollUp count
  | scrollDown count => exact wellFormed.scrollDown count
  | cursorUp count => exact wellFormed.moveTo _ _
  | cursorDown count => exact wellFormed.moveTo _ _
  | cursorForward count => exact wellFormed.moveTo _ _
  | cursorBackward count => exact wellFormed.moveTo _ _
  | setPosition row column => exact wellFormed.moveTo _ _
  | setColumn column => exact wellFormed.moveTo _ _
  | setRow row => exact wellFormed.moveTo _ _
  | eraseDisplay extent => exact wellFormed.eraseDisplay extent
  | eraseLine extent => exact wellFormed.eraseLine extent
  | insertLines count => exact wellFormed.insertLines count
  | deleteLines count => exact wellFormed.deleteLines count
  | insertCells count => exact wellFormed.insertCells count
  | deleteCells count => exact wellFormed.deleteCells count
  | eraseCells count => exact wellFormed.eraseCells count
  | setRegion top bottom => exact wellFormed.setRegion top bottom
  | saveCursor => exact wellFormed.saveCursor
  | restoreCursor => exact wellFormed.restoreCursor
  | set switch on => exact wellFormed.set switch on
  | restyle change => exact wellFormed.restyle _
  | reset => exact start_wellFormed terminal.size

theorem WellFormed.size_apply (wellFormed : terminal.WellFormed) (command : Command) :
    (terminal.apply command).size = terminal.size := by
  cases command with
  | reset => exact wellFormed.atLeastOne_size
  | restyle change => rfl
  | _ =>
      simp [Terminal.apply, carriageReturn, backspace, tab, cursorUp, cursorDown, cursorForward,
        cursorBackward, setPosition, setColumn, setRow]

theorem WellFormed.applyAll (wellFormed : terminal.WellFormed) (commands : List Command) :
    (terminal.applyAll commands).WellFormed ∧
      (terminal.applyAll commands).size = terminal.size := by
  induction commands generalizing terminal with
  | nil => exact ⟨wellFormed, rfl⟩
  | cons command commands induction =>
      rw [applyAll_cons]
      have after := induction (wellFormed.apply command)
      exact ⟨after.1, after.2.trans (wellFormed.size_apply command)⟩

end Terminal

end RoguePilot
