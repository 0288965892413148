import RoguePilot.Game.Map
import RoguePilot.Proofs.Screen.Glyph

/-!
# The map as a projection of the screen

A map keeps its cells in one list, line by line. Reading a single cell, cutting the list into lines and
searching it for a glyph go by the same numbering of the places, as long as the list has as many cells as the
map has places. The map of a screen is such a map, and each of its places shows the cell that the screen has
there.
-/

namespace RoguePilot

namespace Map

variable {map : Map} {cell : MapCell} {column row width height index : Nat} {glyph : Char}

/-- The list has a cell for every place of the map. -/
def Filled (map : Map) : Prop :=
  map.cells.length = map.height * map.width

theorem get?_eq_some_iff :
    map.get? column row = some cell ↔
      (column < map.width ∧ row < map.height) ∧ map.cells[row * map.width + column]? = some cell :=
  Option.ite_none_right_eq_some

/-! ## The numbering of the places -/

/-- A place comes before the first place of every line below. -/
theorem index_lt_mul (inside : column < width) (above : row < height) :
    row * width + column < height * width :=
  calc
    row * width + column < row * width + width := Nat.add_lt_add_left inside _
    _ = (row + 1) * width := (Nat.succ_mul row width).symm
    _ ≤ height * width := Nat.mul_le_mul_right width above

/-- The places are numbered in the order in which they are passed. -/
theorem index_lt_index_iff {place other : Position} (inside : place.column < width)
    (inside_other : other.column < width) :
    place.row * width + place.column < other.row * width + other.column ↔ place.Precedes other := by
  rcases Nat.lt_trichotomy place.row other.row with above | same | below
  · exact iff_of_true (Nat.lt_add_right _ (index_lt_mul inside above)) (.inl above)
  · rw [Position.Precedes, same, Nat.add_lt_add_iff_left]
    simp
  · refine iff_of_false (Nat.lt_asymm (Nat.lt_add_right _ (index_lt_mul inside_other below))) ?_
    rintro (above | ⟨same, -⟩)
    · exact Nat.lt_asymm above below
    · exact Nat.lt_irrefl _ (same ▸ below)

/-- Every cell of a filled map is at the place with its number. -/
theorem Filled.get?_index (filled : map.Filled) (found : map.cells[index]? = some cell) :
    map.get? (index % map.width) (index / map.width) = some cell := by
  have inside : index < map.height * map.width := filled ▸ (List.getElem?_eq_some_iff.mp found).1
  have wide : 0 < map.width := Nat.pos_of_mul_pos_left (Nat.lt_of_le_of_lt (Nat.zero_le _) inside)
  refine get?_eq_some_iff.mpr ⟨⟨Nat.mod_lt _ wide, Nat.div_lt_of_lt_mul (Nat.mul_comm _ _ ▸ inside)⟩, ?_⟩
  rwa [Nat.div_add_mod']

/-! ## Searching -/

/-- The place shows the glyph, and none that comes before it does. -/
structure ShowsFirst (map : Map) (glyph : Char) (place : Position) : Prop where
  /-- The place shows the glyph. -/
  shown : ∃ cell ∈ map.get? place.column place.row, cell.glyph = glyph
  /-- No place before it does. -/
  first : ∀ earlier : Position, earlier.Precedes place →
    ∀ cell ∈ map.get? earlier.column earlier.row, cell.glyph ≠ glyph

/-- A search finds the place that shows the glyph first. -/
theorem Filled.find?_eq_some_iff (filled : map.Filled) :
    map.find? glyph = some (column, row) ↔ map.ShowsFirst glyph ⟨row, column⟩ := by
  rw [find?, Option.map_eq_some_iff]
  constructor
  · rintro ⟨index, found, same⟩
    cases same
    obtain ⟨inside, shown, first⟩ := List.findIdx?_eq_some_iff_getElem.mp found
    have here := filled.get?_index (List.getElem?_eq_getElem inside)
    refine ⟨⟨_, here, of_decide_eq_true shown⟩, fun earlier precedes cell there => ?_⟩
    obtain ⟨⟨fits, -⟩, found_earlier⟩ := get?_eq_some_iff.mp there
    obtain ⟨inside_earlier, rfl⟩ := List.getElem?_eq_some_iff.mp found_earlier
    have lt := (index_lt_index_iff fits (get?_eq_some_iff.mp here).1.1).mpr precedes
    rw [Nat.div_add_mod'] at lt
    exact mt decide_eq_true (first _ lt)
  · rintro ⟨⟨cell, here, shown⟩, first⟩
    obtain ⟨⟨fits, -⟩, found⟩ := get?_eq_some_iff.mp here
    obtain ⟨inside, rfl⟩ := List.getElem?_eq_some_iff.mp found
    refine ⟨row * map.width + column, List.findIdx?_eq_some_iff_getElem.mpr ⟨inside, decide_eq_true shown, ?_⟩, ?_⟩
    · intro earlier lt
      have there := filled.get?_index (List.getElem?_eq_getElem (Nat.lt_trans lt inside))
      rw [decide_eq_true_eq]
      refine first ⟨earlier / map.width, earlier % map.width⟩ ?_ _ there
      refine (index_lt_index_iff (get?_eq_some_iff.mp there).1.1 fits).mp ?_
      rwa [Nat.div_add_mod']
    · have wide : 0 < map.width := Nat.lt_of_le_of_lt (Nat.zero_le _) fits
      rw [Nat.mul_add_mod_of_lt fits, Nat.mul_comm, Nat.mul_add_div wide, Nat.div_eq_of_lt fits, Nat.add_zero]

/-- A search finds nothing where no place shows the glyph. -/
theorem Filled.find?_eq_none_iff (filled : map.Filled) :
    map.find? glyph = none ↔ ∀ place : Position, ∀ cell ∈ map.get? place.column place.row, cell.glyph ≠ glyph := by
  rw [find?, Option.map_eq_none_iff, List.findIdx?_eq_none_iff]
  constructor
  · intro none place cell here
    exact of_decide_eq_false (none cell (List.mem_of_getElem? (get?_eq_some_iff.mp here).2))
  · intro none cell member
    obtain ⟨index, found⟩ := List.mem_iff_getElem?.mp member
    exact decide_eq_false (none ⟨index / map.width, index % map.width⟩ cell (filled.get?_index found))

/-! ## Lines -/

/-- The lines have the cells of the map at their places. -/
theorem getElem?_rows (map : Map) (column row : Nat) :
    (map.rows[row]?.bind fun cells => cells[column]?) = map.get? column row := by
  rw [rows, List.getElem?_map, get?]
  by_cases inside : row < map.height
  · rw [List.getElem?_range inside, Option.map_some, Option.bind_some, List.getElem?_take, List.getElem?_drop]
    simp only [inside, and_true]
  · rw [List.getElem?_eq_none (Nat.le_trans (Nat.le_of_eq List.length_range) (Nat.le_of_not_lt inside)), Option.map_none,
      Option.bind_none, if_neg fun fits => inside fits.2]

theorem length_rows (map : Map) : map.rows.length = map.height := by
  rw [rows, List.length_map, List.length_range]

theorem Filled.length_of_mem_rows (filled : map.Filled) {line : List MapCell} (member : line ∈ map.rows) :
    line.length = map.width := by
  obtain ⟨row, inside, rfl⟩ := List.mem_map.mp member
  have above : (row + 1) * map.width ≤ map.height * map.width :=
    Nat.mul_le_mul_right map.width (List.mem_range.mp inside)
  refine List.length_take_of_le ?_
  rw [List.length_drop, filled]
  rw [Nat.succ_mul] at above
  exact Nat.le_sub_of_add_le' above

/-- Pieces of equal length that are cut off one after the other make up what they are cut off from. -/
theorem take_mul_eq_flatMap (cells : List MapCell) (width height : Nat) :
    cells.take (height * width) = (List.range height).flatMap fun row => (cells.drop (row * width)).take width := by
  induction height with
  | zero => rw [Nat.zero_mul, List.take_zero, List.range_zero, List.flatMap_nil]
  | succ height induction =>
      rw [Nat.succ_mul, List.take_add, induction, List.range_succ, List.flatMap_append, List.flatMap_singleton]

/-- The lines one after the other are the cells. -/
theorem Filled.flatten_rows (filled : map.Filled) : map.rows.flatten = map.cells := by
  rw [rows, ← List.flatMap_def, ← take_mul_eq_flatMap, ← filled, List.take_length]

/-! ## The map of a screen -/

section Tabulation

variable {α : Type} (width height : Nat) (entry : Nat → Nat → α)

theorem length_tabulation :
    ((List.range height).flatMap fun row => (List.range width).map (entry row)).length = height * width := by
  induction height with
  | zero => exact (Nat.zero_mul width).symm
  | succ height induction =>
      rw [List.range_succ, List.flatMap_append, List.length_append, induction, List.flatMap_singleton,
        List.length_map, List.length_range, Nat.succ_mul]

/-- An entry of a table stands in its list by the number of its place. -/
theorem getElem?_tabulation (inside : column < width) (above : row < height) :
    ((List.range height).flatMap fun row => (List.range width).map (entry row))[row * width + column]? =
      some (entry row column) := by
  induction height with
  | zero => exact absurd above (Nat.not_lt_zero row)
  | succ height induction =>
      rw [List.range_succ, List.flatMap_append, List.flatMap_singleton]
      rcases Nat.lt_succ_iff_lt_or_eq.mp above with above | rfl
      · rw [List.getElem?_append_left, induction above]
        rw [length_tabulation]
        exact index_lt_mul inside above
      · rw [List.getElem?_append_right, length_tabulation, Nat.add_sub_cancel_left, List.getElem?_map,
          List.getElem?_range inside]
        · rfl
        · rw [length_tabulation]
          exact Nat.le_add_right _ _

end Tabulation

/-- What the screen has at a place, in the palette of the game. -/
def projected (screen : Screen) (row column : Nat) : MapCell :=
  match screen.cell? ⟨row, column⟩ with
  | some cell => .ofCell cell
  | none => {}

theorem filled_ofScreen (screen : Screen) : (ofScreen screen).Filled :=
  length_tabulation screenWidth screenHeight (projected screen)

theorem get?_ofScreen (screen : Screen) (inside : column < 33) (above : row < 17) :
    (ofScreen screen).get? column row = some (projected screen row column) :=
  get?_eq_some_iff.mpr ⟨⟨inside, above⟩, getElem?_tabulation screenWidth screenHeight (projected screen) inside above⟩

end Map

/-! ## Hues -/

namespace Hue

/-- The place of a hue in the palette. -/
def index (hue : Hue) : Nat :=
  palette.idxOf hue

theorem ofIndex?_index (hue : Hue) : ofIndex? hue.index = some hue := by
  cases hue <;> rfl

theorem ofIndex?_index_brighten (hue : Hue) :
    ofIndex? (if hue.index < 8 then hue.index + 8 else hue.index) = some hue.brighten := by
  cases hue <;> rfl

end Hue

namespace MapCell

/--
The map cell shows the glyph of the screen cell in the hues of the palette. A glyph in the terminal's own
colour is light gray, and one in bold is eight hues further on if its hue is of normal intensity.
-/
structure Depicts (shown : MapCell) (cell : Cell) : Prop where
  glyph_eq : shown.glyph = cell.glyph
  foreground_eq :
    let index := (cell.style.foreground.resolve .lightGray).index
    Hue.ofIndex? (if cell.style.bold ∧ index < 8 then index + 8 else index) = some shown.foreground
  background_eq : shown.background = cell.style.background.resolve .black

theorem depicts_ofCell (cell : Cell) : (ofCell cell).Depicts cell where
  glyph_eq := rfl
  background_eq := rfl
  foreground_eq := by
    rw [ofCell]
    cases cell.style.bold with
    | true => simpa using Hue.ofIndex?_index_brighten _
    | false => simpa using Hue.ofIndex?_index _

end MapCell

namespace Map

/--
The map of a screen of any size has at each of its places what the screen has there, or a blank where the
screen has nothing, and no other places. Its lines are made up of the same cells, and a search finds the first
of them that shows the glyph, if there is one.
-/
theorem ofScreen_projects (screen : Screen) :
    let map := ofScreen screen
    (map.width = 33 ∧ map.height = 17) ∧
      (∀ column row, column < 33 → row < 17 → ∃ shown, map.get? column row = some shown ∧
        (∀ cell ∈ screen.cell? ⟨row, column⟩, shown.Depicts cell) ∧
        (screen.cell? ⟨row, column⟩ = none → shown = ⟨' ', .lightGray, .black⟩)) ∧
      (∀ column row, ¬ (column < 33 ∧ row < 17) → map.get? column row = none) ∧
      (map.rows.length = 17 ∧ (∀ line ∈ map.rows, line.length = 33) ∧ map.rows.flatten = map.cells ∧
        ∀ column row, (map.rows[row]?.bind fun cells => cells[column]?) = map.get? column row) ∧
      (∀ glyph column row, map.find? glyph = some (column, row) ↔ map.ShowsFirst glyph ⟨row, column⟩) ∧
      ∀ glyph, map.find? glyph = none ↔
        ∀ place : Position, ∀ cell ∈ map.get? place.column place.row, cell.glyph ≠ glyph := by
  intro map
  have filled : map.Filled := filled_ofScreen screen
  refine ⟨⟨rfl, rfl⟩, fun column row inside above => ?_, fun column row outside => if_neg outside, ⟨?_, ?_, ?_, ?_⟩,
    fun glyph column row => filled.find?_eq_some_iff, fun glyph => filled.find?_eq_none_iff⟩
  · refine ⟨_, get?_ofScreen screen inside above, fun cell found => ?_, fun absent => ?_⟩
    · rw [projected, Option.mem_def.mp found]
      exact MapCell.depicts_ofCell cell
    · rw [projected, absent]
  · exact length_rows map
  · exact fun line member => filled.length_of_mem_rows member
  · exact filled.flatten_rows
  · exact getElem?_rows map

/-- A screen that is smaller than the map, with one glyph in the terminal's own colour and one in red, both bold. -/
theorem ofScreen_projects_small :
    let screen : Screen := ⟨⟨2, 1⟩, [[⟨'#', { bold := true }⟩, ⟨'@', { foreground := .hue .red, bold := true }⟩]]⟩
    let map := ofScreen screen
    (∃ shown, map.get? 0 0 = some shown ∧ shown.Depicts ⟨'#', { bold := true }⟩) ∧
      map.get? 2 0 = some ⟨' ', .lightGray, .black⟩ ∧ map.get? 33 0 = none ∧
        (map.find? '@' = some (1, 0) ∧ map.ShowsFirst '@' ⟨0, 1⟩) ∧ map.rows.flatten = map.cells := by
  intro screen map
  obtain ⟨-, projects, outside, ⟨-, -, flatten_eq, -⟩, find_iff, -⟩ := ofScreen_projects screen
  obtain ⟨shown, get_eq, depicts, -⟩ := projects 0 0 (by decide) (by decide)
  obtain ⟨blank, get_blank, -, blank_eq⟩ := projects 2 0 (by decide) (by decide)
  have found : map.find? '@' = some (1, 0) := by decide
  exact ⟨⟨shown, get_eq, depicts _ rfl⟩, blank_eq rfl ▸ get_blank, outside 33 0 (by decide),
    ⟨found, (find_iff '@' 1 0).mp found⟩, flatten_eq⟩

/-- The map before anything was drawn has no places to read, to list or to find. -/
theorem empty_has_no_places :
    (∀ column row, empty.get? column row = none) ∧ empty.rows = [] ∧ ∀ glyph, empty.find? glyph = none :=
  ⟨fun _ _ => if_neg fun inside => Nat.not_lt_zero _ inside.1, rfl, fun _ => rfl⟩

end Map

end RoguePilot
