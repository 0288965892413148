import RoguePilot.Proofs.Screen.Glyph
import RoguePilot.Proofs.Terminal.Run

/-!
# The text of a screen

No cell shows a newline, so the text of a screen falls into its lines again, each with one character for a
cell. A rectangle is cut out of these lines without reading beyond the end of any, whatever its corners are,
and a glyph is found where it stands first in them.
-/

namespace RoguePilot

namespace Screen

variable {α : Type} {lines : List (List Char)} {screen : Screen} {glyph : Char} {first last : Nat}

/-! ## Lines of a text -/

/-- The entries with the numbers from the first to the last one, as far as there are any. -/
def portion (first last : Nat) (entries : List α) : List α :=
  (List.range' first (last + 1 - first)).filterMap fun index => entries[index]?

theorem filterMap_range'_getElem? (entries : List α) (first count : Nat) :
    ((List.range' first count).filterMap fun index => entries[index]?) = (entries.drop first).take count := by
  induction count generalizing first with
  | zero => simp
  | succ count induction =>
      rw [List.range'_succ, List.filterMap_cons, induction]
      by_cases inside : first < entries.length
      · rw [List.getElem?_eq_getElem inside, List.drop_eq_getElem_cons inside, List.take_succ_cons]
      · have beyond : entries.length ≤ first := Nat.le_of_not_lt inside
        simp [List.getElem?_eq_none beyond, List.drop_of_length_le beyond,
          List.drop_of_length_le (Nat.le_succ_of_le beyond)]

theorem portion_eq_drop_take (first last : Nat) (entries : List α) :
    portion first last entries = (entries.take (last + 1)).drop first := by
  rw [portion, filterMap_range'_getElem?, List.drop_take]

theorem portion_of_lt (crossed : last < first) (entries : List α) : portion first last entries = [] := by
  simp [portion, Nat.sub_eq_zero_of_le (Nat.succ_le_of_lt crossed)]

theorem length_portion {entries : List α} (inside : last < entries.length) :
    (portion first last entries).length = last + 1 - first := by
  simp [portion_eq_drop_take, Nat.min_eq_left (Nat.succ_le_of_lt inside)]

/-- A line that is cut to nothing leaves its newline. -/
theorem linesText_map_portion_of_lt (crossed : last < first) (lines : List (List Char)) :
    linesText (lines.map (portion first last)) = List.replicate lines.length '\n' := by
  simp [linesText, List.flatMap_map, portion_of_lt crossed, ← List.map_eq_flatMap, List.map_const']

/-- A text of lines falls into the lines again, and nothing comes after the last one. -/
theorem splitOn_linesText (unbroken : ∀ line ∈ lines, '\n' ∉ line) :
    (linesText lines).splitOn '\n' = lines ++ [[]] := by
  induction lines with
  | nil => exact List.splitOn_nil _
  | cons line lines induction =>
      obtain ⟨here, later⟩ := List.forall_mem_cons.mp unbroken
      have layout : linesText (line :: lines) = line ++ '\n' :: linesText lines := by simp [linesText]
      rw [layout, List.splitOn_append_cons_self, List.splitOn_eq_singleton here, induction later]
      rfl

/-- The character at a place of the lines. -/
def characterAt? (lines : List (List Char)) (place : Position) : Option Char :=
  lines[place.row]?.bind fun shown => shown[place.column]?

/-- The character stands at the place, and nowhere before it. -/
structure StandsFirst (lines : List (List Char)) (glyph : Char) (place : Position) : Prop where
  /-- It stands at the place. -/
  stands : characterAt? lines place = some glyph
  /-- It does not stand at any place before. -/
  first : ∀ earlier : Position, earlier.Precedes place → characterAt? lines earlier ≠ some glyph

/-! ## The lines of a screen -/

/-- The glyphs of a screen, line by line. -/
def glyphLines (screen : Screen) : List (List Char) :=
  screen.lines.map Row.glyphs

theorem characterAt?_glyphLines (screen : Screen) (place : Position) :
    characterAt? screen.glyphLines place = (screen.cell? place).map Cell.glyph := by
  simp only [characterAt?, glyphLines, cell?, List.getElem?_map]
  cases screen.lines[place.row]? with
  | none => rfl
  | some row => exact List.getElem?_map

theorem standsFirst_glyphLines {place : Position} :
    StandsFirst screen.glyphLines glyph place ↔ screen.ShowsFirst glyph place := by
  constructor
  · rintro ⟨stands, first⟩
    simp only [characterAt?_glyphLines, Option.map_eq_some_iff, ne_eq, not_exists, not_and] at stands first
    exact ⟨stands, first⟩
  · rintro ⟨shown, first⟩
    constructor
    · simpa [characterAt?_glyphLines] using shown
    · simpa [characterAt?_glyphLines] using first

theorem findFrom_eq_none_iff {row : Nat} {rows : List Row} :
    findFrom glyph row rows = none ↔ ∀ line ∈ rows.map Row.glyphs, glyph ∉ line := by
  induction rows generalizing row with
  | nil => simp [findFrom]
  | cons top rows induction =>
      have absent_iff : (top.findIdx? fun cell => cell.glyph = glyph) = none ↔ glyph ∉ top.glyphs := by
        simp [Row.glyphs]
      have below_iff : findFrom glyph (row + 1) rows = none ↔ ∀ line ∈ rows.map Row.glyphs, glyph ∉ line :=
        induction
      rw [findFrom, List.map_cons, List.forall_mem_cons, ← absent_iff, ← below_iff]
      cases top.findIdx? fun cell => cell.glyph = glyph with
      | none => simp
      | some column => simp

/-- A glyph is not found on a screen whose lines do not show it. -/
theorem find?_eq_none_iff : screen.find? glyph = none ↔ ∀ line ∈ screen.glyphLines, glyph ∉ line :=
  findFrom_eq_none_iff

theorem regionText_eq_linesText (screen : Screen) (near far : Position) :
    screen.regionText near far =
      linesText ((portion near.row (min far.row (screen.size.rows - 1)) screen.glyphLines).map
        (portion near.column (min far.column (screen.size.columns - 1)))) := by
  simp [regionText, glyphLines, portion_eq_drop_take, Function.comp_def]

section Filled

variable (filled : screen.size.FilledBy screen.lines)

include filled

theorem length_glyphLines : screen.glyphLines.length = screen.size.rows := by
  rw [glyphLines, List.length_map, filled.length_eq]

theorem length_of_mem_glyphLines {line : List Char} (member : line ∈ screen.glyphLines) :
    line.length = screen.size.columns := by
  obtain ⟨row, row_member, rfl⟩ := List.mem_map.mp member
  rw [Row.glyphs, List.length_map, (filled.fits row row_member).length_eq]

theorem newline_notMem_glyphLines {line : List Char} (member : line ∈ screen.glyphLines) : '\n' ∉ line := by
  obtain ⟨row, row_member, rfl⟩ := List.mem_map.mp member
  intro broken
  obtain ⟨cell, cell_member, newline⟩ := List.mem_map.mp broken
  have drawable := (filled.fits row row_member).drawable cell cell_member
  rw [newline] at drawable
  contradiction

end Filled

end Screen

namespace Terminal

/-! ## Guarded cutting -/

namespace Guarded

/-- The entries of a list from the first position to the last one, which it must have. -/
def slice {α : Type} (first last : Nat) (entries : List α) : Guarded (List α) :=
  if first ≤ last + 1 ∧ last < entries.length then .ok ((entries.take (last + 1)).drop first)
  else .error .position

/-- The text of one line of a rectangle, which is empty if the rectangle has no columns. -/
def lineText (first last : Nat) (row : Row) : Guarded (List Char) := do
  if first ≤ last then return Row.glyphs (← slice first last row) ++ ['\n'] else return ['\n']

/-- The text of a rectangle. The far corner is cut to the screen. -/
def regionText (screen : Screen) (near far : Position) : Guarded (List Char) := do
  let lastRow := min far.row (← sub screen.size.rows 1)
  let lastColumn := min far.column (← sub screen.size.columns 1)
  let stop ← add lastRow 1
  let texts ← ((screen.lines.take stop).drop near.row).mapM (lineText near.column lastColumn)
  return texts.flatten

variable {first last : Nat} {row : Row}

theorem slice_eq_ok (ordered : first ≤ last) (inside : last < row.length) :
    slice first last row = .ok ((row.take (last + 1)).drop first) :=
  if_pos ⟨Nat.le_succ_of_le ordered, inside⟩

theorem lineText_eq_ok (inside : last < row.length) :
    lineText first last row = .ok ((row.glyphs.take (last + 1)).drop first ++ ['\n']) := by
  rw [lineText]
  split
  · next ordered =>
    rw [slice_eq_ok ordered inside, ok_bind, pure_eq_ok, Row.glyphs, Row.glyphs, List.map_drop, List.map_take]
  · next crossed =>
    have none : (row.glyphs.take (last + 1)).drop first = [] := by
      refine List.drop_of_length_le (Nat.le_trans (List.length_take_le _ _) ?_)
      omega
    rw [none, pure_eq_ok, List.nil_append]

theorem mapM_eq_ok {α β : Type} {guarded : α → Guarded β} {change : α → β} {entries : List α}
    (agree : ∀ entry ∈ entries, guarded entry = .ok (change entry)) :
    entries.mapM guarded = .ok (entries.map change) := by
  induction entries with
  | nil => rfl
  | cons entry entries induction =>
      obtain ⟨here, later⟩ := List.forall_mem_cons.mp agree
      rw [List.mapM_cons, here, ok_bind, induction later, ok_bind, pure_eq_ok, List.map_cons]

/-- The text of a rectangle of a placed terminal breaks no bound, wherever its corners are. -/
theorem regionText_eq_ok {terminal : Terminal} (placed : terminal.Placed) (fitsWords : FitsWords terminal.size)
    (near far : Position) :
    regionText terminal.screen near far = .ok (terminal.screen.regionText near far) := by
  have rows_pos : 1 ≤ terminal.screen.size.rows := placed.rows_pos
  have columns_pos : 1 ≤ terminal.screen.size.columns := placed.columns_pos
  have rows_le : terminal.screen.size.rows ≤ greatestWord := fitsWords.rows_le
  have stop_le : min far.row (terminal.screen.size.rows - 1) + 1 ≤ greatestWord := by omega
  have cut (row : Row) (member : row ∈
      (terminal.screen.lines.take (min far.row (terminal.screen.size.rows - 1) + 1)).drop near.row) :
      lineText near.column (min far.column (terminal.screen.size.columns - 1)) row =
        .ok ((row.glyphs.take (min far.column (terminal.screen.size.columns - 1) + 1)).drop near.column ++
          ['\n']) := by
    have fits := placed.filled.fits row (List.mem_of_mem_take (List.mem_of_mem_drop member))
    have width : row.length = terminal.screen.size.columns := fits.length_eq
    exact lineText_eq_ok (by omega)
  rw [regionText, sub_eq_ok rows_pos, ok_bind, sub_eq_ok columns_pos, ok_bind, add_eq_ok stop_le, ok_bind,
    mapM_eq_ok cut, ok_bind, pure_eq_ok, ← List.flatMap_def, Screen.regionText, Screen.linesText,
    List.flatMap_map]

end Guarded

/--
The text of the screen of a terminal that was reached falls into as many lines as the screen is high, each as
long as the screen is wide, with the glyphs of the cells. The text of a rectangle, which breaks no bound, is
cut out of these lines, and a glyph is found where it stands first in them.
-/
theorem text_renders_screen (columns rows : UInt16) (inputs : List Console.Input) :
    let screen := (reached columns rows inputs).screen
    let size := Size.atLeastOne ⟨columns.toNat, rows.toNat⟩
    ∃ lines : List (List Char),
      screen.text.splitOn '\n' = lines ++ [[]] ∧
      (lines.length = size.rows ∧ (∀ line ∈ lines, line.length = size.columns) ∧
        ∀ place, Screen.characterAt? lines place = (screen.cell? place).map Cell.glyph) ∧
      (∀ near far : Position,
        let lastRow := min far.row (size.rows - 1)
        let lastColumn := min far.column (size.columns - 1)
        Guarded.regionText screen near far = .ok (screen.regionText near far) ∧
        screen.regionText near far =
          Screen.linesText
            ((Screen.portion near.row lastRow lines).map (Screen.portion near.column lastColumn)) ∧
        (lastRow < near.row → screen.regionText near far = []) ∧
        (lastColumn < near.column →
          screen.regionText near far = List.replicate (lastRow + 1 - near.row) '\n')) ∧
      (∀ glyph place, screen.find? glyph = some place ↔ Screen.StandsFirst lines glyph place) ∧
      ∀ glyph, screen.find? glyph = none ↔ ∀ line ∈ lines, glyph ∉ line := by
  intro screen size
  have wellFormed := reached_wellFormed columns rows inputs
  have filled := wellFormed.filled
  have size_eq : screen.size = size := ((Console.Keeps.start _).takeAll inputs).size_eq
  have height_eq : screen.glyphLines.length = size.rows := size_eq ▸ Screen.length_glyphLines filled
  refine ⟨screen.glyphLines, Screen.splitOn_linesText fun line => Screen.newline_notMem_glyphLines filled,
    ⟨height_eq, fun line member => ?_, Screen.characterAt?_glyphLines screen⟩, fun near far => ?_,
    fun glyph place => Screen.find?_eq_some_iff.trans Screen.standsFirst_glyphLines.symm,
    fun glyph => Screen.find?_eq_none_iff⟩
  · rw [← size_eq]
    exact Screen.length_of_mem_glyphLines filled member
  · intro lastRow lastColumn
    have cut : screen.regionText near far = Screen.linesText
        ((Screen.portion near.row lastRow screen.glyphLines).map (Screen.portion near.column lastColumn)) := by
      rw [Screen.regionText_eq_linesText, size_eq]
    have inside : lastRow < screen.glyphLines.length := by
      have rows_pos : 0 < size.rows := size_eq ▸ wellFormed.rows_pos
      omega
    refine ⟨Guarded.regionText_eq_ok wellFormed.toPlaced (reached_fitsWords columns rows inputs) near far, cut,
      fun crossed => ?_, fun crossed => ?_⟩
    · rw [cut, Screen.portion_of_lt crossed]
      rfl
    · rw [cut, ← Screen.length_portion inside, Screen.linesText_map_portion_of_lt crossed]

/-- A rectangle that begins below the screen, one that begins beside it, and one that ends outside of it. -/
theorem text_renders_screen_outside :
    let screen := (reached 2 2 [.text "ab\ncd".toList]).screen
    screen.text.splitOn '\n' = ["ab".toList, "cd".toList, []] ∧
      screen.regionText ⟨2, 0⟩ ⟨70000, 1⟩ = [] ∧ screen.regionText ⟨0, 3⟩ ⟨1, 1⟩ = "\n\n".toList ∧
      Guarded.regionText screen ⟨0, 1⟩ ⟨70000, 70000⟩ = .ok "b\nd\n".toList ∧
      screen.find? 'c' = some ⟨1, 0⟩ ∧ screen.find? '\n' = none := by
  intro screen
  obtain ⟨lines, -, -, region, find_iff, absent_iff⟩ := text_renders_screen 2 2 [.text "ab\ncd".toList]
  have below := (region ⟨2, 0⟩ ⟨70000, 1⟩).2.2.1 (by decide)
  have beside := (region ⟨0, 3⟩ ⟨1, 1⟩).2.2.2 (by decide)
  have inside := (region ⟨0, 1⟩ ⟨70000, 70000⟩).1
  exact ⟨by decide, below, beside, inside, by decide, by decide⟩

end Terminal

end RoguePilot
