import RoguePilot.Proofs.Terminal.Unwrapped

/-!
# Printing as a typewriter

A text of line feeds and characters that take a cell is typed row by row. A line that is wider than the
screen goes on in the next row, but a full row is not left before the character after it arrives. When
the rows are more than the screen is high, the last ones are shown.
-/

namespace RoguePilot

/-! ## The rows of a text -/

/-- The rows a line takes up: full ones as long as more than a row is left, then one for what is left. -/
def rowsOfLine (width : Nat) (line : List Char) : List (List Char) :=
  if width = 0 ∨ line.length ≤ width then [line]
  else line.take width :: rowsOfLine width (line.drop width)
termination_by line.length
decreasing_by
  rw [List.length_drop]
  omega

/-- The rows a text takes up, line by line. -/
def rowsOfText (width : Nat) (text : List Char) : List (List Char) :=
  (text.splitOn '\n').flatMap (rowsOfLine width)

/-- The rows after one more character: it goes into the last row, or into a new one if that is full. -/
def strike (width : Nat) (glyph : Char) : List (List Char) → List (List Char)
  | [] => [[glyph]]
  | [current] => if current.length < width then [current ++ [glyph]] else [current, [glyph]]
  | row :: next :: rows => row :: strike width glyph (next :: rows)

section Rows

variable {width : Nat} {glyph : Char}

theorem strike_cons {row : List Char} {rows : List (List Char)} (follows : rows ≠ []) :
    strike width glyph (row :: rows) = row :: strike width glyph rows := by
  cases rows with
  | nil => contradiction
  | cons next rows => rfl

theorem strike_append (done : List (List Char)) {rows : List (List Char)} (follows : rows ≠ []) :
    strike width glyph (done ++ rows) = done ++ strike width glyph rows := by
  induction done with
  | nil => rfl
  | cons row done induction =>
      rw [List.cons_append, strike_cons (by simp [follows]), induction, List.cons_append]

theorem rowsOfLine_of_le {line : List Char} (fits : line.length ≤ width) :
    rowsOfLine width line = [line] := by
  rw [rowsOfLine, if_pos (Or.inr fits)]

theorem rowsOfLine_of_lt {line : List Char} (positive : 0 < width) (wider : width < line.length) :
    rowsOfLine width line = line.take width :: rowsOfLine width (line.drop width) := by
  rw [rowsOfLine, if_neg (by omega)]

theorem rowsOfLine_ne_nil (width : Nat) (line : List Char) : rowsOfLine width line ≠ [] := by
  rw [rowsOfLine]
  split <;> exact List.cons_ne_nil _ _

theorem rowsOfLine_concat (positive : 0 < width) (line : List Char) (glyph : Char) :
    rowsOfLine width (line ++ [glyph]) = strike width glyph (rowsOfLine width line) := by
  have length_concat (line : List Char) : (line ++ [glyph]).length = line.length + 1 :=
    List.length_append
  induction line using rowsOfLine.induct width with
  | case1 line ends =>
      have fits : line.length ≤ width := by omega
      rw [rowsOfLine_of_le fits, strike]
      split
      · next room => exact rowsOfLine_of_le (by rw [length_concat]; exact room)
      · next full =>
        -- The line just fills a row, so that what was its only row becomes its first one.
        have length_eq : line.length = width := by omega
        have alone : rowsOfLine width [glyph] = [[glyph]] := rowsOfLine_of_le positive
        rw [rowsOfLine_of_lt positive (by rw [length_concat]; omega), ← length_eq, List.take_left,
          List.drop_left, length_eq, alone]
  | case2 line goes_on induction =>
      have wider : width < line.length := by omega
      rw [rowsOfLine_of_lt positive wider, strike_cons (rowsOfLine_ne_nil _ _), ← induction,
        rowsOfLine_of_lt positive (by rw [length_concat]; omega),
        List.take_append_of_le_length wider.le, List.drop_append_of_le_length wider.le]

theorem length_le_of_mem_rowsOfLine (positive : 0 < width) {line row : List Char}
    (member : row ∈ rowsOfLine width line) : row.length ≤ width := by
  induction line using rowsOfLine.induct width with
  | case1 line ends =>
      have fits : line.length ≤ width := by omega
      rw [rowsOfLine_of_le fits, List.mem_singleton] at member
      rwa [member]
  | case2 line goes_on induction =>
      rw [rowsOfLine_of_lt positive (by omega), List.mem_cons] at member
      rcases member with rfl | later
      · exact List.length_take_le width line
      · exact induction later

/-- What follows the last line feed is the line that one more character goes into. -/
theorem exists_splitOn_concat (plain : glyph ≠ '\n') (text : List Char) :
    ∃ done line, text.splitOn '\n' = done ++ [line] ∧
      (text ++ [glyph]).splitOn '\n' = done ++ [line ++ [glyph]] := by
  induction text with
  | nil => exact ⟨[], [], List.splitOn_nil _, List.splitOn_eq_singleton (by simpa using plain.symm)⟩
  | cons first text induction =>
      obtain ⟨done, line, before, after⟩ := induction
      rw [List.cons_append, List.splitOn_cons_eq_if_modifyHead, List.splitOn_cons_eq_if_modifyHead,
        before, after]
      split
      · exact ⟨[] :: done, line, rfl, rfl⟩
      · cases done with
        | nil => exact ⟨[], first :: line, rfl, rfl⟩
        | cons row done => exact ⟨(first :: row) :: done, line, rfl, rfl⟩

theorem rowsOfText_nil (width : Nat) : rowsOfText width [] = [[]] := by
  rw [rowsOfText, List.splitOn_nil, List.flatMap_singleton, rowsOfLine_of_le (Nat.zero_le width)]

theorem rowsOfText_lineFeed (width : Nat) (text : List Char) :
    rowsOfText width (text ++ ['\n']) = rowsOfText width text ++ [[]] := by
  rw [rowsOfText, List.splitOn_append_cons_self, List.flatMap_append]
  exact congrArg _ (rowsOfText_nil width)

theorem rowsOfText_concat (positive : 0 < width) (plain : glyph ≠ '\n') (text : List Char) :
    rowsOfText width (text ++ [glyph]) = strike width glyph (rowsOfText width text) := by
  obtain ⟨done, line, before, after⟩ := exists_splitOn_concat plain text
  simp only [rowsOfText, before, after, List.flatMap_append, List.flatMap_singleton]
  rw [rowsOfLine_concat positive, strike_append _ (rowsOfLine_ne_nil width line)]

/-- There is a last row, and it is no wider than the screen. -/
theorem exists_rowsOfText (positive : 0 < width) (text : List Char) :
    ∃ done current, rowsOfText width text = done ++ [current] ∧ current.length ≤ width := by
  obtain empty | ⟨done, current, rows_eq⟩ := List.eq_nil_or_concat (rowsOfText width text)
  · obtain ⟨line, member⟩ := List.exists_mem_of_ne_nil _ (List.splitOn_ne_nil '\n' text)
    exact absurd (List.flatMap_eq_nil_iff.mp empty line member) (rowsOfLine_ne_nil width line)
  · rw [List.concat_eq_append] at rows_eq
    have last : current ∈ rowsOfText width text := by rw [rows_eq]; exact List.mem_concat_self
    obtain ⟨line, -, member⟩ := List.mem_flatMap.mp last
    exact ⟨done, current, rows_eq, length_le_of_mem_rowsOfLine positive member⟩

end Rows

/-! ## The rows on the screen -/

/-- The line that shows a text from its first cell on, in the default style. -/
def Row.ofText (width : Nat) (text : List Char) : Row :=
  text.map (fun glyph => ⟨glyph, {}⟩) ++ Row.blank (width - text.length)

theorem Row.set_ofText {width : Nat} {text : List Char} (room : text.length < width) (glyph : Char) :
    (Row.ofText width text).set text.length ⟨glyph, {}⟩ = Row.ofText width (text ++ [glyph]) := by
  obtain ⟨rest, rest_eq⟩ : ∃ rest, width - text.length = rest + 1 :=
    ⟨width - text.length - 1, by omega⟩
  have less : width - (text ++ [glyph]).length = rest := by
    rw [List.length_append, List.length_singleton]
    omega
  rw [Row.ofText, Row.ofText, rest_eq, less, List.set_append_right _ _ (by rw [List.length_map]),
    List.length_map, Nat.sub_self, Row.blank, List.replicate_succ, List.set_cons_zero, List.map_append,
    List.append_assoc]
  rfl

/-- The lines that show the last rows that fit on the screen, from its top on. -/
def Size.page (size : Size) (rows : List (List Char)) : List Row :=
  (rows.drop (rows.length - size.rows)).map (Row.ofText size.columns) ++
    List.replicate (size.rows - rows.length) (Row.blank size.columns)

namespace Size

variable {size : Size} {rows done : List (List Char)} {current : List Char}

theorem length_page (size : Size) (rows : List (List Char)) : (size.page rows).length = size.rows := by
  simp only [page, List.length_append, List.length_map, List.length_drop, List.length_replicate]
  omega

/-- A line without a row is blank, like the line of a row without characters. -/
theorem getElem?_page (size : Size) (rows : List (List Char)) {index : Nat}
    (inside : index < size.rows) :
    (size.page rows)[index]? =
      some (Row.ofText size.columns (rows[rows.length - size.rows + index]?.getD [])) := by
  simp only [page, List.getElem?_append, List.length_map, List.length_drop, List.getElem?_map,
    List.getElem?_drop, List.getElem?_replicate]
  split
  · next shown =>
    rw [List.getElem?_eq_getElem (by omega)]
    rfl
  · next beyond =>
    rw [if_pos (by omega), List.getElem?_eq_none (by omega)]
    rfl

theorem page_ext {lines : List Row} (length_eq : lines.length = size.rows)
    (same : ∀ index < size.rows, lines[index]? =
      some (Row.ofText size.columns (rows[rows.length - size.rows + index]?.getD []))) :
    lines = size.page rows := by
  apply List.ext_getElem?
  intro index
  by_cases inside : index < size.rows
  · rw [same index inside, getElem?_page size rows inside]
  · rw [List.getElem?_eq_none (by omega), List.getElem?_eq_none (by rw [length_page]; omega)]

/-- While there is room below, a new row shows in nothing. -/
theorem page_concat_nil (room : rows.length < size.rows) :
    size.page rows = size.page (rows ++ [[]]) := by
  refine page_ext (length_page size rows) ?_
  intro index inside
  rw [getElem?_page size rows inside, List.length_append, List.getElem?_append]
  grind

/-- On a full screen a new row moves the others up. -/
theorem pull_page (positive : 0 < size.rows) (full : size.rows ≤ rows.length) :
    Stretch.pull 0 (size.rows - 1) 1 (Row.blank size.columns) (size.page rows) =
      size.page (rows ++ [[]]) := by
  have length_eq := length_page size rows
  refine page_ext (by rw [Stretch.length_pull (Nat.zero_le _), length_eq]) ?_
  intro index inside
  rw [Stretch.getElem?_pull (Nat.zero_le _) (by omega), if_pos (by omega)]
  split
  · next remains =>
    rw [getElem?_page size rows (by omega), List.length_append, List.getElem?_append]
    grind
  · next last =>
    -- The line that has come in shows the new row, which has no characters.
    have beyond : rows.length + 1 - size.rows + index = rows.length := by omega
    rw [List.length_append, List.length_singleton, beyond, List.getElem?_concat_length]
    rfl

/-- Extending the last row shows in its line. -/
theorem modify_page (positive : 0 < size.rows) (room : current.length < size.columns) (glyph : Char) :
    (size.page (done ++ [current])).modify (min (done.length + 1) size.rows - 1)
        (fun cells => cells.set current.length ⟨glyph, {}⟩) =
      size.page (done ++ [current ++ [glyph]]) := by
  refine page_ext (by rw [List.length_modify, length_page]) ?_
  intro index inside
  by_cases here : min (done.length + 1) size.rows - 1 = index
  · have last : done.length + 1 - size.rows + index = done.length := by omega
    rw [here, List.getElem?_modify_eq, getElem?_page size _ inside, List.length_append,
      List.length_append, List.length_singleton, List.length_singleton, last,
      List.getElem?_concat_length, List.getElem?_concat_length]
    exact congrArg some (Row.set_ofText room glyph)
  · rw [List.getElem?_modify_ne _ _ here, getElem?_page size _ inside, List.length_append,
      List.length_append, List.getElem?_append, List.getElem?_append]
    grind

end Size

namespace Terminal

/--
The terminal that shows rows of text in the default style. The cursor is in the line of the last row,
after its last character; if the row is full, it is in the last column and a wrap is pending.
-/
def typed (size : Size) (rows : List (List Char)) : Terminal where
  screen := ⟨size, size.page rows⟩
  cursor :=
    { position := ⟨min rows.length size.rows - 1, min (rows.getLastD []).length (size.columns - 1)⟩
      wrapPending := (rows.getLastD []).length = size.columns }
  style := {}
  modes := {}
  region := .whole size

theorem typed_concat (size : Size) (done : List (List Char)) (current : List Char) :
    typed size (done ++ [current]) =
      { screen := ⟨size, size.page (done ++ [current])⟩
        cursor :=
          { position := ⟨min (done.length + 1) size.rows - 1, min current.length (size.columns - 1)⟩
            wrapPending := current.length = size.columns }
        style := {}
        modes := {}
        region := .whole size } := by
  rw [typed, List.getLastD_concat, List.length_append, List.length_singleton]

theorem nextLine_of_bottom {terminal : Terminal} (last : terminal.row = terminal.region.bottom) :
    terminal.nextLine = terminal.toFirstColumn.settle.scrollUp 1 :=
  if_pos last

theorem nextLine_of_above {terminal : Terminal} (above : terminal.row ≠ terminal.region.bottom)
    (inside : terminal.row < terminal.size.rows - 1) :
    terminal.nextLine = terminal.toFirstColumn.settle.inRow (terminal.row + 1) :=
  (if_neg above).trans (if_pos inside)

/-- A row that has room takes a glyph at its end. -/
theorem advance_write_typed {size : Size} (rows_pos : 0 < size.rows) {done : List (List Char)}
    {current : List Char} (room : current.length < size.columns) (glyph : Char) :
    ((typed size (done ++ [current])).write glyph).advance =
      typed size (done ++ [current ++ [glyph]]) := by
  have column_eq : min current.length (size.columns - 1) = current.length := by omega
  have written : (typed size (done ++ [current])).write glyph =
      { typed size (done ++ [current]) with
        screen := ⟨size, size.page (done ++ [current ++ [glyph]])⟩ } := by
    rw [← Size.modify_page rows_pos room glyph, typed_concat, column_eq]
    rfl
  rw [written, typed_concat, typed_concat, advance, column_eq, List.length_append,
    List.length_singleton]
  by_cases inside : current.length + 1 < size.columns
  · have column_eq : min (current.length + 1) (size.columns - 1) = current.length + 1 := by omega
    rw [column_eq, decide_eq_false inside.ne, decide_eq_false room.ne]
    exact if_pos inside
  · have column_eq : min (current.length + 1) (size.columns - 1) = current.length := by omega
    have full : current.length + 1 = size.columns := by omega
    rw [column_eq, decide_eq_true full]
    exact if_neg inside

section Typing

variable {size : Size} (columns_pos : 0 < size.columns) (rows_pos : 0 < size.rows)
include columns_pos

/-- At the start of a row the cursor is in the first column. -/
theorem typed_concat_nil (done : List (List Char)) :
    typed size (done ++ [[]]) =
      { screen := ⟨size, size.page (done ++ [[]])⟩
        cursor := { position := ⟨min (done.length + 1) size.rows - 1, 0⟩ }
        style := {}
        modes := {}
        region := .whole size } := by
  have settled : decide (([] : List Char).length = size.columns) = false :=
    decide_eq_false columns_pos.ne
  rw [typed_concat, settled, List.length_nil, Nat.zero_min]

include rows_pos

theorem start_eq_typed : start size = typed size [[]] := by
  have size_eq : size.atLeastOne = size := Size.atLeastOne_eq columns_pos rows_pos
  have page_eq : List.replicate size.rows (Row.blank size.columns) = size.page [[]] := by
    refine Size.page_ext List.length_replicate ?_
    intro index inside
    have row_eq : [([] : List Char)][1 - size.rows + index]?.getD [] = [] := by grind
    rw [List.getElem?_replicate, if_pos inside, List.length_singleton, row_eq]
    rfl
  have row_eq : min (0 + 1) size.rows - 1 = 0 := by omega
  rw [start, size_eq, Screen.blank, page_eq, ← List.nil_append [[]], typed_concat_nil columns_pos,
    List.length_nil, row_eq]
  rfl

theorem nextLine_typed {rows : List (List Char)} (nonempty : rows ≠ []) :
    (typed size rows).nextLine = typed size (rows ++ [[]]) := by
  have rows_length : 0 < rows.length := List.length_pos_iff.mpr nonempty
  have row_eq : (typed size rows).row = min rows.length size.rows - 1 := rfl
  rw [typed_concat_nil columns_pos]
  by_cases full : size.rows ≤ rows.length
  · have last : (typed size rows).row = size.rows - 1 := by omega
    have same : min (rows.length + 1) size.rows - 1 = (typed size rows).row := by omega
    rw [nextLine_of_bottom last, ← Size.pull_page rows_pos full, same]
    rfl
  · have above : (typed size rows).row < size.rows - 1 := by omega
    have next : min (rows.length + 1) size.rows - 1 = (typed size rows).row + 1 := by omega
    rw [nextLine_of_above above.ne above, ← Size.page_concat_nil (Nat.lt_of_not_le full), next]
    rfl

theorem print_typed {done : List (List Char)} {current : List Char} {glyph : Char}
    (fits : current.length ≤ size.columns) (takes : Text.takesCell glyph = true) :
    (typed size (done ++ [current])).print glyph =
      typed size (strike size.columns glyph (done ++ [current])) := by
  rw [strike_append done (List.cons_ne_nil _ _), strike]
  split
  · next room =>
    have settled : (typed size (done ++ [current])).cursor.wrapPending = false := by
      rw [typed_concat]
      exact decide_eq_false room.ne
    rw [print_of_settled settled takes, advance_write_typed rows_pos room]
  · next full =>
    have pending : (typed size (done ++ [current])).cursor.wrapPending = true := by
      rw [typed_concat]
      exact decide_eq_true (by omega)
    have blank : ([] : List Char).length < size.columns := columns_pos
    rw [print_of_pending pending takes, nextLine_typed columns_pos rows_pos (List.concat_ne_nil _ _),
      advance_write_typed rows_pos blank, List.append_assoc]
    rfl

end Typing

/-- What takes a cell is no control character. -/
theorem bounds_of_takesCell {glyph : Char} (takes : Text.takesCell glyph = true) :
    0x20 ≤ glyph.toNat ∧ (glyph.toNat < 0x7F ∨ 0xA0 ≤ glyph.toNat) := by
  simp only [Text.takesCell, Text.isControl, Bool.and_eq_true, Bool.not_eq_true',
    Bool.or_eq_false_iff, Bool.and_eq_false_iff, decide_eq_false_iff_not] at takes
  omega

theorem Console.feed_lineFeed (terminal : Terminal) :
    Console.feed ⟨.ground, terminal⟩ '\n' = ⟨.ground, terminal.lineFeed⟩ := by
  have reads : Interpreter.feed .ground '\n' = (.ground, [.lineFeed]) := by decide
  rw [feed, reads]
  rfl

theorem Console.feed_of_takesCell (terminal : Terminal) {glyph : Char}
    (takes : Text.takesCell glyph = true) :
    Console.feed ⟨.ground, terminal⟩ glyph = ⟨.ground, terminal.print glyph⟩ := by
  have visible := bounds_of_takesCell takes
  have not_c0 : Interpreter.isC0 glyph = false := decide_eq_false (by omega)
  have not_c1 : Interpreter.isC1 glyph = false := by
    rw [Interpreter.isC1, Bool.and_eq_false_iff, decide_eq_false_iff_not, decide_eq_false_iff_not]
    omega
  have not_padding : glyph ≠ '\x7f' := by
    rintro rfl
    contradiction
  have reads : Interpreter.feed .ground glyph = (.ground, [.print glyph]) := by
    simp only [Interpreter.feed, not_c0, Bool.false_and, Bool.false_eq_true, if_false,
      if_neg not_padding, Interpreter.read, not_c1]
  rw [feed, reads]
  rfl

/-! ## Typing -/

/-- Typed text goes on with the next character. -/
theorem feed_typed {size : Size} (columns_pos : 0 < size.columns) (rows_pos : 0 < size.rows)
    (prior : List Char) {glyph : Char} (plain : glyph = '\n' ∨ Text.takesCell glyph = true) :
    Console.feed ⟨.ground, typed size (rowsOfText size.columns prior)⟩ glyph =
      ⟨.ground, typed size (rowsOfText size.columns (prior ++ [glyph]))⟩ := by
  obtain ⟨done, current, rows_eq, fits⟩ := exists_rowsOfText columns_pos prior
  by_cases feeds : glyph = '\n'
  · rw [feeds, Console.feed_lineFeed, rowsOfText_lineFeed, rows_eq,
      ← nextLine_typed columns_pos rows_pos (List.concat_ne_nil _ _)]
    rfl
  · have takes := plain.resolve_left feeds
    rw [Console.feed_of_takesCell _ takes, rowsOfText_concat columns_pos feeds, rows_eq,
      print_typed columns_pos rows_pos fits takes]

theorem display_typed {size : Size} (columns_pos : 0 < size.columns) (rows_pos : 0 < size.rows)
    (prior : List Char) {text : List Char}
    (plain : ∀ glyph ∈ text, glyph = '\n' ∨ Text.takesCell glyph = true) :
    Console.display ⟨.ground, typed size (rowsOfText size.columns prior)⟩ text =
      ⟨.ground, typed size (rowsOfText size.columns (prior ++ text))⟩ := by
  -- What has been typed before is any text, so that it can grow by the character in hand.
  induction text generalizing prior with
  | nil => rw [Console.display_nil, List.append_nil]
  | cons glyph text induction =>
      obtain ⟨here, later⟩ := List.forall_mem_cons.mp plain
      rw [Console.display_cons, feed_typed columns_pos rows_pos prior here, induction _ later,
        List.append_assoc, List.singleton_append]

/--
On a console just switched on, a text of line feeds and characters that take a cell shows its rows from
the top of the screen on, or the last of them if they are too many, with the cursor after them.
-/
theorem display_start_eq_typed {size : Size} (columns_pos : 0 < size.columns)
    (rows_pos : 0 < size.rows) {text : List Char}
    (plain : ∀ glyph ∈ text, glyph = '\n' ∨ Text.takesCell glyph = true) :
    (Console.start size).display text = ⟨.ground, typed size (rowsOfText size.columns text)⟩ := by
  have typing := display_typed columns_pos rows_pos [] plain
  rwa [rowsOfText_nil, List.nil_append, ← start_eq_typed columns_pos rows_pos] at typing

/-- A full line takes up one row, and only the character after a full row moves the others up. -/
theorem display_start_eq_typed_full_rows :
    (∀ glyph ∈ "ab\ncdef".toList, glyph = '\n' ∨ Text.takesCell glyph = true) ∧
      (Console.start ⟨2, 2⟩).display "ab\ncdef".toList =
        ⟨.ground, typed ⟨2, 2⟩ [['a', 'b'], ['c', 'd'], ['e', 'f']]⟩ ∧
      (typed ⟨2, 2⟩ [['a', 'b'], ['c', 'd'], ['e', 'f']]).screen.text = "cd\nef\n".toList ∧
      (typed ⟨2, 2⟩ [['a', 'b'], ['c', 'd'], ['e', 'f']]).cursor.wrapPending = true := by
  have all_plain : "ab\ncdef".toList.all (fun glyph => glyph = '\n' || Text.takesCell glyph) = true := by
    decide
  have plain : ∀ glyph ∈ "ab\ncdef".toList, glyph = '\n' ∨ Text.takesCell glyph = true := by
    intro glyph member
    have here := List.all_eq_true.mp all_plain glyph member
    rwa [Bool.or_eq_true, decide_eq_true_eq] at here
  have rows_eq : rowsOfText 2 "ab\ncdef".toList = [['a', 'b'], ['c', 'd'], ['e', 'f']] := by
    decide +kernel
  refine ⟨plain, ?_, by decide, by decide⟩
  rw [← rows_eq]
  exact display_start_eq_typed Nat.two_pos Nat.two_pos plain

end Terminal

end RoguePilot
