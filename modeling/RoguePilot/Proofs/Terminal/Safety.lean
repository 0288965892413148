import RoguePilot.Proofs.Terminal.Guarded
import RoguePilot.Proofs.Terminal.WellFormed

/-!
# Guarded runs never fail

On a well-formed terminal whose extent fits sixteen bits, every guarded command succeeds and does
what the command does. Since commands keep terminals well-formed, this holds along every run.
-/

namespace RoguePilot.Terminal.Guarded

variable {α β : Type}

@[simp] theorem ok_bind (value : α) (next : α → Guarded β) :
    (Except.ok value >>= next) = next value := rfl

@[simp] theorem pure_eq_ok (value : α) : (pure value : Guarded α) = .ok value := rfl

/-- A choice succeeds if each of its branches does. -/
theorem ite_eq_ok {condition : Prop} [Decidable condition] {first second : Guarded α}
    {left right : α} (yes : condition → first = .ok left) (no : ¬condition → second = .ok right) :
    (if condition then first else second) = .ok (if condition then left else right) := by
  by_cases holds : condition
  · rw [if_pos holds, if_pos holds, yes holds]
  · rw [if_neg holds, if_neg holds, no holds]

/-! ## Numbers and lists within their bounds -/

theorem add_eq_ok {left right : Nat} (inside : left + right ≤ greatestWord) :
    add left right = .ok (left + right) :=
  if_pos inside

theorem sub_eq_ok {left right : Nat} (inside : right ≤ left) :
    sub left right = .ok (left - right) :=
  if_pos inside

section Lists

variable {first last stop position : Nat} {filler : α} {entries : List α}

theorem modify_eq_ok {guarded : α → Guarded α} {change : α → α}
    (inside : position < entries.length)
    (agree : guarded entries[position] = .ok (change entries[position])) :
    modify position guarded entries = .ok (entries.modify position change) := by
  simp only [modify, List.getElem?_eq_getElem inside, agree, ok_bind, pure_eq_ok,
    Except.ok.injEq]
  apply List.ext_getElem?
  intro index
  rw [List.getElem?_set, List.getElem?_modify]
  by_cases here : position = index
  · subst here
    simp [inside]
  · simp [here]

theorem remove_eq_ok (inside : position < entries.length) :
    remove position entries = .ok (entries.eraseIdx position) :=
  if_pos inside

theorem insert_eq_ok (inside : position ≤ entries.length) :
    insert position filler entries = .ok (entries.insertIdx position filler) :=
  if_pos inside

theorem mapRange_eq_ok {change : α → α} (ordered : first ≤ stop) (inside : stop ≤ entries.length)
    (uniform : ∀ entry ∈ entries, change entry = filler) :
    mapRange first stop change entries =
      .ok (Stretch.fill first (stop - first) filler entries) := by
  have changed :
      ((entries.take stop).drop first).map change =
        List.replicate (min (stop - first) (entries.length - first)) filler := by
    rw [List.eq_replicate_iff]
    constructor
    · simp only [List.length_map, List.length_drop, List.length_take]
      omega
    · intro entry member
      obtain ⟨old, old_member, rfl⟩ := List.mem_map.mp member
      exact uniform old (List.mem_of_mem_take (List.mem_of_mem_drop old_member))
  rw [mapRange, if_pos ⟨ordered, inside⟩, changed, Stretch.fill, Nat.add_sub_cancel' ordered]

/-- Steps that each move a stretch by one position move it by as many positions as there are. -/
theorem iterate_pull {step : List α → Guarded (List α)} (ordered : first ≤ last)
    (inside : last < entries.length)
    (step_eq : ∀ moved : List α, moved.length = entries.length →
      step moved = .ok (Stretch.pull first last 1 filler moved)) (count : Nat) :
    iterate step count entries = .ok (Stretch.pull first last count filler entries) := by
  induction count generalizing entries with
  | zero => rw [iterate, Stretch.pull_zero ordered inside]
  | succ count induction =>
      have length_eq : (Stretch.pull first last 1 filler entries).length = entries.length :=
        Stretch.length_pull (Nat.le_succ_of_le ordered)
      rw [iterate, step_eq entries rfl, ok_bind, induction (by omega),
        Stretch.pull_pull ordered inside, Nat.add_comm]
      intro moved moved_length
      exact step_eq moved (moved_length.trans length_eq)

theorem iterate_push {step : List α → Guarded (List α)} (ordered : first ≤ last)
    (inside : last < entries.length)
    (step_eq : ∀ moved : List α, moved.length = entries.length →
      step moved = .ok (Stretch.push first last 1 filler moved)) (count : Nat) :
    iterate step count entries = .ok (Stretch.push first last count filler entries) := by
  induction count generalizing entries with
  | zero => rw [iterate, Stretch.push_zero ordered inside]
  | succ count induction =>
      have length_eq : (Stretch.push first last 1 filler entries).length = entries.length :=
        Stretch.length_push (Nat.le_succ_of_le ordered)
      rw [iterate, step_eq entries rfl, ok_bind, induction (by omega),
        Stretch.push_push ordered inside, Nat.add_comm]
      intro moved moved_length
      exact step_eq moved (moved_length.trans length_eq)

end Lists

/-! ## Lines and cells -/

/-- The sides of the extent are numbers of sixteen bits. -/
structure FitsWords (size : Size) : Prop where
  /-- The width is one. -/
  columns_le : size.columns ≤ greatestWord
  /-- The height is one. -/
  rows_le : size.rows ≤ greatestWord

section Commands

variable {terminal : Terminal} {first last : Nat}

theorem modifyRow_eq_ok (placed : terminal.Placed) {guarded : Row → Guarded Row}
    {change : Row → Row}
    (agree : ∀ row, Row.Fits terminal.size.columns row → guarded row = .ok (change row)) :
    modifyRow terminal guarded = .ok (terminal.modifyRow change) := by
  have inside : terminal.row < terminal.screen.lines.length := by
    rw [placed.filled.length_eq]
    exact placed.cursor_inside.row_lt
  have fits := placed.filled.fits _ (List.getElem_mem inside)
  rw [modifyRow, modify_eq_ok inside (agree _ fits), ok_bind]
  rfl

theorem pullLines_eq_ok (placed : terminal.Placed) (fitsWords : FitsWords terminal.size)
    (ordered : first ≤ last) (inside : last < terminal.size.rows) (count : Nat) :
    pullLines terminal first last count =
      .ok (terminal.withLines
        (Stretch.pull first last count terminal.blankRow terminal.screen.lines)) := by
  have rows_le := fitsWords.rows_le
  rw [← placed.filled.length_eq] at inside
  have height_le : last - first + 1 ≤ greatestWord := by
    rw [placed.filled.length_eq] at inside
    omega
  simp only [pullLines, sub_eq_ok ordered, add_eq_ok height_le, ok_bind]
  rw [iterate_pull ordered inside]
  · rw [Stretch.pull_min ordered inside]
    rfl
  · intro lines length_eq
    have removed : last ≤ (lines.eraseIdx first).length := by
      rw [List.length_eraseIdx_of_lt (by omega)]
      omega
    rw [remove_eq_ok (by omega), ok_bind, insert_eq_ok removed,
      Stretch.pull_one ordered (by omega)]

theorem pushLines_eq_ok (placed : terminal.Placed) (fitsWords : FitsWords terminal.size)
    (ordered : first ≤ last) (inside : last < terminal.size.rows) (count : Nat) :
    pushLines terminal first last count =
      .ok (terminal.withLines
        (Stretch.push first last count terminal.blankRow terminal.screen.lines)) := by
  have rows_le := fitsWords.rows_le
  rw [← placed.filled.length_eq] at inside
  have height_le : last - first + 1 ≤ greatestWord := by
    rw [placed.filled.length_eq] at inside
    omega
  simp only [pushLines, sub_eq_ok ordered, add_eq_ok height_le, ok_bind]
  rw [iterate_push ordered inside]
  · rw [Stretch.push_min ordered inside]
    rfl
  · intro lines length_eq
    have removed : first ≤ (lines.eraseIdx last).length := by
      rw [List.length_eraseIdx_of_lt (by omega)]
      omega
    rw [remove_eq_ok (by omega), ok_bind, insert_eq_ok removed,
      Stretch.push_one ordered (by omega)]

theorem scrollUp_eq_ok (placed : terminal.Placed) (fitsWords : FitsWords terminal.size)
    (count : Nat) : scrollUp terminal count = .ok (terminal.scrollUp count) :=
  pullLines_eq_ok placed fitsWords placed.region_ordered placed.region_inside count

theorem scrollDown_eq_ok (placed : terminal.Placed) (fitsWords : FitsWords terminal.size)
    (count : Nat) : scrollDown terminal count = .ok (terminal.scrollDown count) :=
  pushLines_eq_ok placed fitsWords placed.region_ordered placed.region_inside count

/-! ## The cursor -/

theorem moveTo_eq_ok (placed : terminal.Placed) (row column : Nat) :
    moveTo terminal row column = .ok (terminal.moveTo row column) := by
  simp only [moveTo, sub_eq_ok placed.rows_pos, sub_eq_ok placed.columns_pos, ok_bind, pure_eq_ok]
  rfl

/-- The greatest word is no nearer than the last line. -/
theorem moveTo_addCapped_row (fitsWords : FitsWords terminal.size) (row count column : Nat) :
    terminal.moveTo (addCapped row count) column = terminal.moveTo (row + count) column := by
  have rows_le := fitsWords.rows_le
  have same : min (addCapped row count) (terminal.size.rows - 1) =
      min (row + count) (terminal.size.rows - 1) := by
    simp only [addCapped]
    omega
  simp only [Terminal.moveTo, same]

/-- The greatest word is no nearer than the last column. -/
theorem moveTo_min_column (fitsWords : FitsWords terminal.size) (row column : Nat) :
    terminal.moveTo row (min column greatestWord) = terminal.moveTo row column := by
  have columns_le := fitsWords.columns_le
  have same : min (min column greatestWord) (terminal.size.columns - 1) =
      min column (terminal.size.columns - 1) := by
    omega
  simp only [Terminal.moveTo, same]

theorem tab_eq_ok (placed : terminal.Placed) (fitsWords : FitsWords terminal.size) :
    tab terminal = .ok terminal.tab := by
  have columns_le := fitsWords.columns_le
  have column_lt : terminal.column < terminal.size.columns := placed.cursor_inside.column_lt
  rw [tab, add_eq_ok (by omega), ok_bind, moveTo_eq_ok placed, mulCapped,
    moveTo_min_column fitsWords]
  rfl

theorem index_eq_ok (placed : terminal.Placed) (fitsWords : FitsWords terminal.size) :
    index terminal = .ok terminal.index := by
  have settled := placed.settle
  have rows_le : terminal.settle.size.rows ≤ greatestWord := fitsWords.rows_le
  simp only [index, Terminal.index, scrollUp_eq_ok settled.toPlaced fitsWords,
    sub_eq_ok settled.rows_pos, ok_bind]
  split
  · rfl
  · split
    · next before_last =>
      rw [add_eq_ok (by omega), ok_bind, pure_eq_ok]
    · rfl

theorem reverseIndex_eq_ok (placed : terminal.Placed) (fitsWords : FitsWords terminal.size) :
    reverseIndex terminal = .ok terminal.reverseIndex := by
  have settled := placed.settle
  simp only [reverseIndex, Terminal.reverseIndex, scrollDown_eq_ok settled.toPlaced fitsWords]
  split
  · rfl
  · split
    · next after_first =>
      rw [sub_eq_ok after_first, ok_bind, pure_eq_ok]
    · rfl

theorem nextLine_eq_ok (placed : terminal.Placed) (fitsWords : FitsWords terminal.size) :
    nextLine terminal = .ok terminal.nextLine :=
  index_eq_ok placed.toFirstColumn fitsWords

theorem lineFeed_eq_ok (placed : terminal.Placed) (fitsWords : FitsWords terminal.size) :
    lineFeed terminal = .ok terminal.lineFeed := by
  simp only [lineFeed, Terminal.lineFeed, nextLine_eq_ok placed fitsWords,
    index_eq_ok placed fitsWords]
  split <;> rfl

theorem restoreCursor_eq_ok (placed : terminal.Placed) :
    restoreCursor terminal = .ok terminal.restoreCursor := by
  unfold restoreCursor Terminal.restoreCursor
  cases terminal.cursor.saved with
  | none => rfl
  | some saved => simp only [moveTo_eq_ok placed, ok_bind, pure_eq_ok]

theorem setRegion_eq_ok (wellFormed : terminal.WellFormed) (top bottom : Nat) :
    setRegion terminal top bottom = .ok (terminal.setRegion top bottom) := by
  have rows_pos := wellFormed.rows_pos
  have inside : min (bottom - 1) (terminal.size.rows - 1) < terminal.size.rows := by omega
  simp only [setRegion, Terminal.setRegion, sub_eq_ok rows_pos, ok_bind]
  split
  · next ordered => exact moveTo_eq_ok (wellFormed.withRegion ordered inside).toPlaced 0 0
  · exact moveTo_eq_ok wellFormed.toPlaced 0 0

/-! ## Printing, erasing and editing -/

theorem write_eq_ok (placed : terminal.Placed) (glyph : Char) :
    write terminal glyph = .ok (terminal.write glyph) := by
  apply modifyRow_eq_ok placed
  intro row fits
  have inside := placed.column_lt_length fits
  simp only [modify, List.getElem?_eq_getElem inside, ok_bind, pure_eq_ok]

theorem advance_eq_ok (placed : terminal.Placed) (fitsWords : FitsWords terminal.size) :
    advance terminal = .ok terminal.advance := by
  have columns_le := fitsWords.columns_le
  have column_lt : terminal.column < terminal.size.columns := placed.cursor_inside.column_lt
  have next_le : terminal.column + 1 ≤ greatestWord := by omega
  simp only [advance, Terminal.advance, add_eq_ok next_le, ok_bind]
  split
  · rfl
  · split <;> rfl

theorem print_eq_ok (wellFormed : terminal.WellFormed) (fitsWords : FitsWords terminal.size)
    (glyph : Char) : print terminal glyph = .ok (terminal.print glyph) := by
  simp only [print, Terminal.print, nextLine_eq_ok wellFormed.toPlaced fitsWords]
  split
  · next takes =>
    split
    · have wrapped := wellFormed.nextLine
      have wrapped_fits : FitsWords terminal.nextLine.size := by rwa [size_nextLine]
      rw [ok_bind, write_eq_ok wrapped.toPlaced, ok_bind,
        advance_eq_ok (wrapped.write takes).toPlaced wrapped_fits]
    · rw [ok_bind, write_eq_ok wellFormed.toPlaced, ok_bind,
        advance_eq_ok (wellFormed.write takes).toPlaced fitsWords]
  · rfl

theorem eraseLine_eq_ok (placed : terminal.Placed) (extent : Extent) :
    eraseLine terminal extent = .ok (terminal.eraseLine extent) := by
  cases extent with
  | toEnd =>
      apply modifyRow_eq_ok placed
      intro row fits
      have inside := placed.column_lt_length fits
      exact mapRange_eq_ok (Nat.le_of_lt inside) (Nat.le_refl _) fun _ _ => rfl
  | toCursor =>
      apply modifyRow_eq_ok placed
      intro row fits
      have inside := placed.column_lt_length fits
      exact mapRange_eq_ok (Nat.zero_le _) inside fun _ _ => rfl
  | all =>
      apply modifyRow_eq_ok placed
      intro row fits
      exact mapRange_eq_ok (Nat.zero_le _) (Nat.le_refl _) fun _ _ => rfl

theorem cleared_eq_blank {width : Nat} {row : Row} (fits : Row.Fits width row) :
    cleared row = Row.blank width := by
  rw [cleared, List.map_const', fits.length_eq, Row.blank]

theorem clearLines_eq_ok (placed : terminal.Placed) {stop : Nat} (ordered : first ≤ stop)
    (inside : stop ≤ terminal.screen.lines.length) :
    clearLines terminal first stop =
      .ok (terminal.withLines
        (Stretch.fill first (stop - first) terminal.blankRow terminal.screen.lines)) := by
  have uniform : ∀ row ∈ terminal.screen.lines, cleared row = terminal.blankRow := by
    intro row member
    exact cleared_eq_blank (placed.filled.fits row member)
  rw [clearLines, mapRange_eq_ok ordered inside uniform, ok_bind, pure_eq_ok]

theorem eraseDisplay_eq_ok (wellFormed : terminal.WellFormed) (extent : Extent) :
    eraseDisplay terminal extent = .ok (terminal.eraseDisplay extent) := by
  have length_eq := wellFormed.filled.length_eq
  have row_lt : terminal.row < terminal.size.rows := wellFormed.cursor_inside.row_lt
  cases extent with
  | toEnd =>
      have erased := wellFormed.eraseLine .toEnd
      have erased_length : (terminal.eraseLine .toEnd).screen.lines.length = terminal.size.rows :=
        erased.filled.length_eq
      have count_eq : (terminal.eraseLine .toEnd).screen.lines.length - (terminal.row + 1) =
          min terminal.size.rows
            ((terminal.eraseLine .toEnd).screen.lines.length - (terminal.row + 1)) := by
        omega
      rw [eraseDisplay, eraseLine_eq_ok wellFormed.toPlaced, ok_bind,
        clearLines_eq_ok erased.toPlaced (by omega) (Nat.le_refl _), count_eq, Stretch.fill_min]
      rfl
  | toCursor =>
      have blanked : terminal.size.FilledBy
          (Stretch.fill 0 terminal.row terminal.blankRow terminal.screen.lines) :=
        wellFormed.filled.fill
      rw [eraseDisplay, clearLines_eq_ok wellFormed.toPlaced (Nat.zero_le _) (by omega), ok_bind]
      exact eraseLine_eq_ok (wellFormed.withLines blanked).toPlaced .toCursor
  | all =>
      rw [eraseDisplay, clearLines_eq_ok wellFormed.toPlaced (Nat.zero_le _) (Nat.le_refl _),
        ok_bind, length_eq]
      exact moveTo_eq_ok (wellFormed.withLines wellFormed.filled.fill).toPlaced 0 0

theorem insertLines_eq_ok (wellFormed : terminal.WellFormed) (fitsWords : FitsWords terminal.size)
    (count : Nat) : insertLines terminal count = .ok (terminal.insertLines count) := by
  simp only [insertLines, Terminal.insertLines]
  split
  · next inside =>
    have ordered := le_bottom_of_contains inside
    have moved : terminal.size.FilledBy
        (Stretch.push terminal.row terminal.region.bottom count terminal.blankRow
          terminal.screen.lines) :=
      wellFormed.filled.push (Nat.le_succ_of_le ordered)
    rw [pushLines_eq_ok wellFormed.toPlaced fitsWords ordered wellFormed.region_inside, ok_bind]
    exact moveTo_eq_ok (wellFormed.withLines moved).toPlaced _ _
  · rfl

theorem deleteLines_eq_ok (wellFormed : terminal.WellFormed) (fitsWords : FitsWords terminal.size)
    (count : Nat) : deleteLines terminal count = .ok (terminal.deleteLines count) := by
  simp only [deleteLines, Terminal.deleteLines]
  split
  · next inside =>
    have ordered := le_bottom_of_contains inside
    have moved : terminal.size.FilledBy
        (Stretch.pull terminal.row terminal.region.bottom count terminal.blankRow
          terminal.screen.lines) :=
      wellFormed.filled.pull (Nat.le_succ_of_le ordered)
    rw [pullLines_eq_ok wellFormed.toPlaced fitsWords ordered wellFormed.region_inside, ok_bind]
    exact moveTo_eq_ok (wellFormed.withLines moved).toPlaced _ _
  · rfl

theorem insertCells_eq_ok (placed : terminal.Placed) (count : Nat) :
    insertCells terminal count = .ok (terminal.insertCells count) := by
  apply modifyRow_eq_ok placed
  intro row fits
  have inside := placed.column_lt_length fits
  have room_eq : row.length - terminal.column = row.length - 1 - terminal.column + 1 := by omega
  have ordered : terminal.column ≤ row.length - 1 := by omega
  have last_lt : row.length - 1 < row.length := by omega
  rw [sub_eq_ok (Nat.le_of_lt inside), ok_bind, room_eq, iterate_push ordered last_lt,
    Stretch.push_min ordered last_lt]
  intro cells length_eq
  rw [insert_eq_ok (by rw [List.length_dropLast]; omega), Stretch.push_one ordered (by omega),
    List.eraseIdx_eq_dropLast (by omega)]

theorem deleteCells_eq_ok (placed : terminal.Placed) (count : Nat) :
    deleteCells terminal count = .ok (terminal.deleteCells count) := by
  apply modifyRow_eq_ok placed
  intro row fits
  have inside := placed.column_lt_length fits
  have room_eq : row.length - terminal.column = row.length - 1 - terminal.column + 1 := by omega
  have ordered : terminal.column ≤ row.length - 1 := by omega
  have last_lt : row.length - 1 < row.length := by omega
  rw [sub_eq_ok (Nat.le_of_lt inside), ok_bind, room_eq, iterate_pull ordered last_lt,
    Stretch.pull_min ordered last_lt]
  intro cells length_eq
  have removed : row.length - 1 = (cells.eraseIdx terminal.column).length := by
    rw [List.length_eraseIdx_of_lt (by omega), length_eq]
  rw [remove_eq_ok (by omega), ok_bind, pure_eq_ok, Stretch.pull_one ordered (by omega), removed,
    List.insertIdx_length_self]

theorem eraseCells_eq_ok (placed : terminal.Placed) (count : Nat) :
    eraseCells terminal count = .ok (terminal.eraseCells count) := by
  apply modifyRow_eq_ok placed
  intro row fits
  have inside := placed.column_lt_length fits
  have count_eq : min (terminal.column + count) row.length - terminal.column =
      min count (row.length - terminal.column) := by
    omega
  rw [mapRange_eq_ok (by omega) (by omega) fun _ _ => rfl, count_eq, Stretch.fill_min]

theorem set_eq_ok (wellFormed : terminal.WellFormed) (switch : Switch) (on : Bool) :
    set terminal switch on = .ok (terminal.set switch on) := by
  cases switch with
  | autoWrap => rfl
  | insert => rfl
  | lineFeedNewLine => rfl
  | cursorShown => rfl
  | otherScreen =>
      cases on with
      | true => exact eraseDisplay_eq_ok wellFormed .all
      | false => rfl
  | keptCursor =>
      cases on with
      | true => rfl
      | false => exact restoreCursor_eq_ok wellFormed.toPlaced
  | otherScreenKeepingCursor =>
      cases on with
      | true => exact eraseDisplay_eq_ok wellFormed.saveCursor .all
      | false => exact restoreCursor_eq_ok wellFormed.toPlaced

theorem start_eq_ok (size : Size) : start size = .ok (Terminal.start size) := by
  have rows_pos : 0 < size.atLeastOne.rows := Nat.le_max_right size.rows 1
  rw [start, sub_eq_ok rows_pos, ok_bind, pure_eq_ok]
  rfl

/-! ## Runs -/

theorem apply_eq_ok (wellFormed : terminal.WellFormed) (fitsWords : FitsWords terminal.size)
    (command : Command) : apply terminal command = .ok (terminal.apply command) := by
  have placed := wellFormed.toPlaced
  cases command with
  | print glyph => exact print_eq_ok wellFormed fitsWords glyph
  | carriageReturn => exact moveTo_eq_ok placed _ _
  | lineFeed => exact lineFeed_eq_ok placed fitsWords
  | index => exact index_eq_ok placed fitsWords
  | reverseIndex => exact reverseIndex_eq_ok placed fitsWords
  | nextLine => exact nextLine_eq_ok placed fitsWords
  | backspace => exact moveTo_eq_ok placed _ _
  | tab => exact tab_eq_ok placed fitsWords
  | scrollUp count => exact scrollUp_eq_ok placed fitsWords count
  | scrollDown count => exact scrollDown_eq_ok placed fitsWords count
  | cursorUp count => exact moveTo_eq_ok placed _ _
  | cursorDown count =>
      rw [apply, moveTo_eq_ok placed, moveTo_addCapped_row fitsWords]
      rfl
  | cursorForward count =>
      rw [apply, moveTo_eq_ok placed, addCapped, moveTo_min_column fitsWords]
      rfl
  | cursorBackward count => exact moveTo_eq_ok placed _ _
  | setPosition row column => exact moveTo_eq_ok placed _ _
  | setColumn column => exact moveTo_eq_ok placed _ _
  | setRow row => exact moveTo_eq_ok placed _ _
  | eraseDisplay extent => exact eraseDisplay_eq_ok wellFormed extent
  | eraseLine extent => exact eraseLine_eq_ok placed extent
  | insertLines count => exact insertLines_eq_ok wellFormed fitsWords count
  | deleteLines count => exact deleteLines_eq_ok wellFormed fitsWords count
  | insertCells count => exact insertCells_eq_ok placed count
  | deleteCells count => exact deleteCells_eq_ok placed count
  | eraseCells count => exact eraseCells_eq_ok placed count
  | setRegion top bottom => exact setRegion_eq_ok wellFormed top bottom
  | saveCursor => rfl
  | restoreCursor => exact restoreCursor_eq_ok placed
  | set switch on => exact set_eq_ok wellFormed switch on
  | restyle change => rfl
  | reset => exact start_eq_ok terminal.size

theorem applyAll_eq_ok (wellFormed : terminal.WellFormed) (fitsWords : FitsWords terminal.size)
    (commands : List Command) :
    applyAll terminal commands = .ok (terminal.applyAll commands) := by
  induction commands generalizing terminal with
  | nil => rfl
  | cons command commands induction =>
      have size_eq := wellFormed.size_apply command
      rw [applyAll, apply_eq_ok wellFormed fitsWords, ok_bind, applyAll_cons]
      exact induction (wellFormed.apply command) (size_eq ▸ fitsWords)

end Commands

/-! ## Interpreting output -/

theorem hueFrom_eq_ok {first code : Nat} (after : first ≤ code) :
    hueFrom first code = .ok (Hue.ofIndex? (code - first)) := by
  rw [hueFrom, sub_eq_ok after, ok_bind, pure_eq_ok]

theorem brightHueFrom_eq_ok {first code : Nat} (after : first ≤ code)
    (before : code ≤ first + 7) :
    brightHueFrom first code = .ok (Hue.ofIndex? (code - first + 8)) := by
  have inside : code - first + 8 ≤ greatestWord := by
    simp only [greatestWord]
    omega
  rw [brightHueFrom, sub_eq_ok after, ok_bind, add_eq_ok inside, ok_bind, pure_eq_ok]

theorem single_eq_ok (code : Nat) : single code = .ok (Rendition.single? code) := by
  unfold single Rendition.single?
  refine ite_eq_ok (fun _ => rfl) fun _ => ?_
  refine ite_eq_ok (fun _ => rfl) fun _ => ?_
  refine ite_eq_ok (fun _ => rfl) fun _ => ?_
  refine ite_eq_ok (fun normal => ?_) fun _ => ?_
  · rw [hueFrom_eq_ok normal.1, ok_bind, pure_eq_ok]
  refine ite_eq_ok (fun _ => rfl) fun _ => ?_
  refine ite_eq_ok (fun normal => ?_) fun _ => ?_
  · rw [hueFrom_eq_ok normal.1, ok_bind, pure_eq_ok]
  refine ite_eq_ok (fun _ => rfl) fun _ => ?_
  refine ite_eq_ok (fun bright => ?_) fun _ => ?_
  · rw [brightHueFrom_eq_ok bright.1 bright.2, ok_bind, pure_eq_ok]
  refine ite_eq_ok (fun bright => ?_) fun _ => rfl
  · rw [brightHueFrom_eq_ok bright.1 bright.2, ok_bind, pure_eq_ok]

theorem changes_eq_ok (codes : List Nat) : changes codes = .ok (Rendition.changes codes) := by
  fun_induction Rendition.changes codes with
  | case1 => rw [changes]
  | case2 code codes place introduced induction =>
      rw [changes, introduced]
      simp only [induction, ok_bind, pure_eq_ok]
  | case3 code codes alone induction =>
      rw [changes, alone]
      simp only [single_eq_ok, induction, ok_bind, pure_eq_ok]

theorem sequenceCommands_eq_ok (dialect : Dialect) (final : Char) (numbers : List Nat) :
    sequenceCommands dialect final numbers =
      .ok (Terminal.sequenceCommands dialect final numbers) := by
  unfold sequenceCommands
  split
  · next rendition =>
    obtain ⟨rfl, rfl, some_number⟩ := rendition
    have not_empty : numbers.isEmpty = false := by simpa using some_number
    rw [changes_eq_ok, ok_bind, pure_eq_ok]
    simp [Terminal.sequenceCommands, standardCommands, Rendition.commands, not_empty]
  · rfl

theorem digit_eq_ok (character : Char) :
    digit character = .ok (Interpreter.digit? character) := by
  unfold digit Interpreter.digit?
  split
  · next is_digit =>
    have zero_le : '0'.toNat ≤ character.toNat := by
      simp only [Char.isDigit, Bool.and_eq_true, decide_eq_true_eq] at is_digit
      exact is_digit.1
    rw [sub_eq_ok zero_le]
    rfl
  · rfl

/-- Capping the product before the digit is added makes no difference to the capped sum. -/
theorem extendParameter_eq (parameter digit : Nat) :
    extendParameter parameter digit = Terminal.extendParameter parameter digit := by
  simp only [extendParameter, Terminal.extendParameter, addCapped, mulCapped, greatestWord,
    greatestParameter]
  omega

theorem afterEntry_eq_ok (dialect : Dialect) (character : Char) :
    afterEntry dialect character = .ok (Interpreter.afterEntry dialect character) := by
  rw [afterEntry, digit_eq_ok, ok_bind, Interpreter.afterEntry]
  cases Interpreter.digit? character with
  | some digit => rfl
  | none =>
      refine ite_eq_ok (fun _ => rfl) fun _ => ?_
      refine ite_eq_ok (fun _ => rfl) fun _ => ?_
      refine ite_eq_ok (fun _ => rfl) fun _ => ?_
      refine ite_eq_ok (fun _ => ?_) fun _ => rfl
      rw [sequenceCommands_eq_ok, ok_bind, pure_eq_ok]

theorem afterParameters_eq_ok (dialect : Dialect) (complete : List Nat) (current : Option Nat)
    (character : Char) :
    afterParameters dialect complete current character =
      .ok (Interpreter.afterParameters dialect complete current character) := by
  rw [afterParameters, digit_eq_ok, ok_bind, Interpreter.afterParameters]
  cases Interpreter.digit? character with
  | some digit =>
      simp only [extendParameter_eq]
      rfl
  | none =>
      refine ite_eq_ok (fun _ => rfl) fun _ => ?_
      refine ite_eq_ok (fun _ => rfl) fun _ => ?_
      refine ite_eq_ok (fun _ => ?_) fun _ => rfl
      rw [sequenceCommands_eq_ok, ok_bind, pure_eq_ok]

theorem afterIntermediate_eq_ok (dialect : Dialect) (numbers : List Nat) (character : Char) :
    afterIntermediate dialect numbers character =
      .ok (Interpreter.afterIntermediate dialect numbers character) := by
  unfold afterIntermediate Interpreter.afterIntermediate
  refine ite_eq_ok (fun _ => rfl) fun _ => ?_
  refine ite_eq_ok (fun _ => ?_) fun _ => rfl
  rw [sequenceCommands_eq_ok, ok_bind, pure_eq_ok]

theorem interpret_eq_ok (interpreter : Interpreter) (character : Char) :
    interpret interpreter character = .ok (interpreter.feed character) := by
  unfold interpret Interpreter.feed
  split
  · rfl
  · split
    · rfl
    · cases interpreter with
      | entry dialect => exact afterEntry_eq_ok dialect character
      | parameters dialect complete current =>
          exact afterParameters_eq_ok dialect complete current character
      | intermediate dialect numbers => exact afterIntermediate_eq_ok dialect numbers character
      | _ => rfl

end RoguePilot.Terminal.Guarded
