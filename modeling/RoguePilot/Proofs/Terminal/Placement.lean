import RoguePilot.Proofs.Terminal.Parameters

/-!
# Writing at a place

A place is addressed by a control sequence with the numerals of its line and its column. Text that ends
before the last column stays in its line: each glyph takes the cell the last one left the cursor in.
-/

namespace RoguePilot

namespace Terminal

open Interpreter

/-! ## Addressing -/

/-- The sequence that addresses a line and a column, both counted from one. -/
def placeSequence (row column : Nat) : List Char :=
  escapeCharacter :: '[' :: (Numeral.decimal row ++ ';' :: (Numeral.decimal column ++ ['H']))

theorem feedAll_placeSequence (row column : Nat) :
    feedAll .ground (placeSequence row column) =
      (.ground, [.setPosition (min greatestParameter row) (min greatestParameter column)]) := by
  have ends : isFinal 'H' = true := by decide
  have read := feedAll_standard (isNumeric_of_mem_pair row column) (head?_pair_ne_colon row column) ends
  rw [numbersOf_pair, List.append_assoc, List.cons_append] at read
  exact read

end Terminal

/-! ## Writing -/

/-- The line with cells written over it from a column on. -/
def Row.overlay : (column : Nat) → List Cell → Row → Row
  | _, [], row => row
  | column, cell :: cells, row => overlay (column + 1) cells (row.set column cell)

theorem Row.overlay_eq {column : Nat} {cells : List Cell} {row : Row}
    (fits : column + cells.length ≤ row.length) :
    row.overlay column cells = row.take column ++ cells ++ row.drop (column + cells.length) := by
  induction cells generalizing column row with
  | nil => simp [overlay]
  | cons cell cells induction =>
      rw [List.length_cons] at fits
      have inside : column < row.length := by omega
      have room : column + 1 + cells.length ≤ (row.set column cell).length := by
        rw [List.length_set]
        omega
      have before : (row.set column cell).take (column + 1) = row.take column ++ [cell] := by
        rw [List.take_add_one, List.take_set_of_le (Nat.le_refl column), List.getElem?_set_self inside]
        rfl
      have after : (row.set column cell).drop (column + 1 + cells.length) =
          row.drop (column + 1 + cells.length) := List.drop_set_of_lt (by omega)
      rw [overlay, induction room, before, after, List.length_cons, List.append_assoc, List.append_assoc,
        List.append_assoc, List.singleton_append, List.cons_append, Nat.add_right_comm, Nat.add_assoc]

theorem Row.overlay_append (column : Nat) (first second : List Cell) (row : Row) :
    row.overlay column (first ++ second) =
      Row.overlay (column + first.length) second (row.overlay column first) := by
  induction first generalizing column row with
  | nil => rfl
  | cons cell first induction =>
      rw [List.cons_append, overlay, overlay, induction, List.length_cons, Nat.add_right_comm,
        Nat.add_assoc]

namespace Terminal

open Interpreter

/-- The terminal with a text written from the cursor on, all of it in the line of the cursor. -/
def letter (terminal : Terminal) (text : List Char) : Terminal :=
  let cells := text.map fun glyph => { glyph, style := terminal.style }
  let position := { terminal.cursor.position with column := terminal.column + text.length }
  { terminal.modifyRow (Row.overlay terminal.column cells) with
    cursor := { terminal.cursor with position } }

theorem letter_nil (terminal : Terminal) : terminal.letter [] = terminal := by
  have same : Row.overlay terminal.column [] = id := rfl
  rw [letter, List.map_nil, same, modifyRow, List.modify_id]
  rfl

theorem print_eq_letter {terminal : Terminal} {glyph : Char}
    (settled : terminal.cursor.wrapPending = false) (takes : Text.takesCell glyph = true)
    (room : terminal.column + 1 < terminal.size.columns) :
    terminal.print glyph = terminal.letter [glyph] := by
  rw [print, if_pos takes, settled, if_neg Bool.false_ne_true, advance]
  exact if_pos room

theorem letter_letter (terminal : Terminal) (first second : List Char) :
    (terminal.letter first).letter second = terminal.letter (first ++ second) := by
  simp only [letter, modifyRow, withLines, row, column, List.modify_modify_eq, List.map_append,
    List.length_append, Nat.add_assoc]
  congr 3
  funext line
  rw [Function.comp_apply, Row.overlay_append, List.length_map]

/-- A text that ends before the last column is written out glyph by glyph. -/
theorem applyAll_print {terminal : Terminal} {text : List Char}
    (settled : terminal.cursor.wrapPending = false)
    (takes : ∀ glyph ∈ text, Text.takesCell glyph = true)
    (room : terminal.column + text.length < terminal.size.columns) :
    terminal.applyAll (text.map .print) = terminal.letter text := by
  induction text generalizing terminal with
  | nil => exact (letter_nil terminal).symm
  | cons glyph text induction =>
      obtain ⟨here, later⟩ := List.forall_mem_cons.mp takes
      rw [List.length_cons] at room
      have printed : terminal.print glyph = terminal.letter [glyph] :=
        print_eq_letter settled here (by omega)
      have room_later : (terminal.letter [glyph]).column + text.length <
          (terminal.letter [glyph]).size.columns := by
        change terminal.column + 1 + text.length < terminal.size.columns
        omega
      have rest : (terminal.letter [glyph]).applyAll (text.map .print) =
          (terminal.letter [glyph]).letter text := induction settled later room_later
      rw [letter_letter, List.singleton_append] at rest
      rw [List.map_cons, applyAll_cons, apply, printed, rest]

/-! ## Lines at their places -/

theorem takesCell_of_visible {character : Char}
    (visible : 0x20 ≤ character.toNat ∧ character.toNat ≤ 0x7E) :
    Text.takesCell character = true := by
  have not_control : Text.isControl character = false := by
    rw [Text.isControl, Bool.or_eq_false_iff, Bool.and_eq_false_iff]
    simp only [decide_eq_false_iff_not]
    omega
  have has_width : Text.isZeroWidth character = false := by
    rw [Text.isZeroWidth, Bool.and_eq_false_iff, decide_eq_false_iff_not]
    omega
  rw [Text.takesCell, not_control, has_width]
  rfl

/-- A text and where its first character goes. -/
structure Placard where
  /-- What is written. -/
  text : List Char
  /-- Where it begins, counted from zero. -/
  position : Position

namespace Placard

variable {placard : Placard} {console : Console}

/-- What is sent to write the text at its place. -/
def output (placard : Placard) : List Char :=
  placeSequence (placard.position.row + 1) (placard.position.column + 1) ++ placard.text

/-- The place can be addressed, and the text is visible and ends before the last column. -/
structure Fits (size : Size) (placard : Placard) : Prop where
  /-- The line is one of the screen. -/
  row_lt : placard.position.row < min size.rows greatestParameter
  /-- The column can be addressed. -/
  column_lt : placard.position.column < greatestParameter
  /-- Nothing is written into the last column. -/
  room : placard.position.column + placard.text.length < size.columns
  /-- Every character takes a cell. -/
  visible : ∀ character ∈ placard.text, 0x20 ≤ character.toNat ∧ character.toNat ≤ 0x7E

/-- A line of the screen with the text on it, in the standard style. -/
def onto (placard : Placard) (row : Row) : Row :=
  row.overlay placard.position.column (placard.text.map fun glyph => { glyph })

/-- The lines of a screen with the text at its place. -/
def inscribe (lines : List Row) (placard : Placard) : List Row :=
  lines.modify placard.position.row placard.onto

theorem display_output (ground : console.interpreter = .ground)
    (fits : placard.Fits console.terminal.size) :
    console.display placard.output =
      ⟨.ground,
        (console.terminal.moveTo placard.position.row placard.position.column).letter
          placard.text⟩ := by
  have row_lt := fits.row_lt
  have column_lt := fits.column_lt
  have room := fits.room
  have parameters : feedAll .ground
      (placeSequence (placard.position.row + 1) (placard.position.column + 1)) =
        (.ground, [.setPosition (placard.position.row + 1) (placard.position.column + 1)]) := by
    rw [feedAll_placeSequence, Nat.min_eq_right (by omega), Nat.min_eq_right (by omega)]
  have inside : min placard.position.column (console.terminal.size.columns - 1) =
      placard.position.column := Nat.min_eq_left (by omega)
  have takes : ∀ glyph ∈ placard.text, Text.takesCell glyph = true := fun glyph member =>
    takesCell_of_visible (fits.visible glyph member)
  rw [output, Console.display_append, Console.display_of_ground ground parameters,
    Console.display_of_ground rfl (feedAll_ground fits.visible)]
  refine congrArg (Console.mk .ground) (applyAll_print rfl takes ?_)
  change min placard.position.column (console.terminal.size.columns - 1) + _ < _
  rw [inside]
  exact room

/-- Texts sent to their places are on the screen where they belong. -/
theorem screen_display {placards : List Placard} (ground : console.interpreter = .ground)
    (plain : console.terminal.style = {})
    (fits : ∀ placard ∈ placards, placard.Fits console.terminal.size) :
    (console.display (placards.flatMap output)).terminal.screen =
      { console.terminal.screen with
        lines := placards.foldl inscribe console.terminal.screen.lines } := by
  induction placards generalizing console with
  | nil => rfl
  | cons placard placards induction =>
      obtain ⟨here, later⟩ := List.forall_mem_cons.mp fits
      have row_lt := here.row_lt
      have room := here.room
      have row_eq : min placard.position.row (console.terminal.size.rows - 1) =
          placard.position.row := Nat.min_eq_left (by omega)
      have column_eq : min placard.position.column (console.terminal.size.columns - 1) =
          placard.position.column := Nat.min_eq_left (by omega)
      let next : Console :=
        ⟨.ground,
          (console.terminal.moveTo placard.position.row placard.position.column).letter placard.text⟩
      have written : next.terminal.screen.lines = inscribe console.terminal.screen.lines placard := by
        simp only [next, letter, modifyRow, withLines, row, column, moveTo, row_eq, column_eq, plain,
          inscribe]
        rfl
      have rest : (next.display (placards.flatMap output)).terminal.screen =
          { next.terminal.screen with lines := placards.foldl inscribe next.terminal.screen.lines } :=
        induction rfl plain later
      rw [List.flatMap_cons, Console.display_append, display_output ground here,
        rest, written, List.foldl_cons]
      rfl

/-- Each line shows what was written into it, whatever was written elsewhere in between. -/
theorem getElem?_foldl_inscribe (placards : List Placard) (lines : List Row) (index : Nat) :
    (placards.foldl inscribe lines)[index]? =
      lines[index]?.map fun row =>
        (placards.filter fun placard => placard.position.row = index).foldl
          (fun row placard => placard.onto row) row := by
  induction placards generalizing lines with
  | nil => exact Option.map_id'.symm
  | cons placard placards induction =>
      rw [List.foldl_cons, induction, inscribe, List.getElem?_modify, Option.map_eq_map, Option.map_map,
        List.filter_cons]
      congr 1
      funext row
      by_cases same : placard.position.row = index
      · simp only [Function.comp_apply, if_pos same, decide_eq_true same, if_true, List.foldl_cons]
      · simp only [Function.comp_apply, if_neg same, decide_eq_false same, Bool.false_eq_true, if_false]

end Placard

end Terminal

end RoguePilot
