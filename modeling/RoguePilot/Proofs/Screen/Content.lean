import RoguePilot.Proofs.Terminal.WellFormed

/-!
# What a screen shows

A screen is described by the cell that each of its places shows. The description says everything: two
screens of the same extent that show the same are the same. Changing one line and blanking cells or lines
is followed place by place.
-/

namespace RoguePilot.Screen

/-- The lines fill the extent of the screen and show the given content. -/
structure Shows (screen : Screen) (content : Position → Option Cell) : Prop where
  /-- There are as many lines as the screen is high, and they are as wide. -/
  filled : screen.size.FilledBy screen.lines
  /-- Every place of the screen shows its content. -/
  cell?_eq : ∀ place, screen.size.Contains place → screen.cell? place = content place

variable {size : Size} {lines : List Row} {content changed : Position → Option Cell}

/-- What a place shows once its line is known. -/
theorem cell?_of_line {screen : Screen} {cells : Row} {place : Position}
    (found : screen.lines[place.row]? = some cells) :
    screen.cell? place = cells[place.column]? := by
  rw [cell?, found, Option.bind_some]

theorem shows_cell? {screen : Screen} (filled : screen.size.FilledBy screen.lines) :
    screen.Shows screen.cell? :=
  ⟨filled, fun _ _ => rfl⟩

namespace Shows

theorem exists_line (shows : Shows ⟨size, lines⟩ content) {row : Nat} (inside : row < size.rows) :
    ∃ cells, lines[row]? = some cells ∧ cells.length = size.columns ∧
      ∀ column < size.columns, cells[column]? = content ⟨row, column⟩ := by
  have exists_row : row < lines.length := shows.filled.length_eq ▸ inside
  have found : lines[row]? = some lines[row] := List.getElem?_eq_getElem exists_row
  refine ⟨_, found, (shows.filled.fits _ (List.getElem_mem exists_row)).length_eq, ?_⟩
  intro column column_lt
  have shown := shows.cell?_eq ⟨row, column⟩ ⟨inside, column_lt⟩
  rwa [cell?_of_line found] at shown

/-- What is shown determines the lines. -/
theorem lines_eq {others : List Row} (first : Shows ⟨size, lines⟩ content)
    (second : Shows ⟨size, others⟩ content) : lines = others := by
  apply List.ext_getElem?
  intro row
  by_cases inside : row < size.rows
  · obtain ⟨cells, found, length_eq, shown⟩ := first.exists_line inside
    obtain ⟨same, found_same, length_same, shown_same⟩ := second.exists_line inside
    have cells_eq : cells = same := by
      apply List.ext_getElem?
      intro column
      by_cases column_lt : column < size.columns
      · rw [shown column column_lt, shown_same column column_lt]
      · rw [List.getElem?_eq_none (by omega), List.getElem?_eq_none (by omega)]
    rw [found, found_same, cells_eq]
  · have length_eq : lines.length = size.rows := first.filled.length_eq
    have length_same : others.length = size.rows := second.filled.length_eq
    rw [List.getElem?_eq_none (by omega), List.getElem?_eq_none (by omega)]

/-- Only what is shown at the places of the screen matters. -/
theorem of_eq (shows : Shows ⟨size, lines⟩ content)
    (agree : ∀ place, size.Contains place → content place = changed place) :
    Shows ⟨size, lines⟩ changed where
  filled := shows.filled
  cell?_eq place inside := (shows.cell?_eq place inside).trans (agree place inside)

/-- A change of one line shows there and nowhere else. -/
theorem modify (shows : Shows ⟨size, lines⟩ content) {row : Nat} {change : Row → Row}
    (keeps : ∀ cells, Row.Fits size.columns cells → Row.Fits size.columns (change cells))
    (here : ∀ cells, cells.length = size.columns →
      (∀ column < size.columns, cells[column]? = content ⟨row, column⟩) →
      ∀ column < size.columns, (change cells)[column]? = changed ⟨row, column⟩)
    (elsewhere : ∀ place, place.row ≠ row → changed place = content place) :
    Shows ⟨size, lines.modify row change⟩ changed where
  filled := shows.filled.modify row keeps
  cell?_eq place inside := by
    obtain ⟨cells, found, length_eq, shown⟩ := shows.exists_line inside.row_lt
    by_cases same : place.row = row
    · subst same
      have replaced : (lines.modify place.row change)[place.row]? = some (change cells) := by
        rw [List.getElem?_modify_eq, found]
        rfl
      rw [cell?_of_line replaced, here cells length_eq shown place.column inside.column_lt]
    · have kept : (lines.modify row change)[place.row]? = some cells := by
        rw [List.getElem?_modify_ne _ _ (Ne.symm same), found]
      rw [cell?_of_line kept, shown place.column inside.column_lt, elsewhere place same]

/-- Blanking cells of a line shows there and nowhere else. -/
theorem blankCells (shows : Shows ⟨size, lines⟩ content) (row first : Nat) (count : Nat → Nat) :
    Shows
      ⟨size, lines.modify row fun cells =>
        Stretch.fill first (count cells.length) Cell.blank cells⟩
      (fun place =>
        if place.row = row ∧ first ≤ place.column ∧ place.column < first + count size.columns then
          some Cell.blank
        else content place) := by
  refine shows.modify (fun _ fits => fits.fill) ?_ ?_
  · intro cells length_eq shown column inside
    rw [Stretch.getElem?_fill, shown column inside, length_eq]
    grind
  · intro place apart
    exact if_neg fun hit => apart hit.1

/-- Blanking whole lines shows there and nowhere else. -/
theorem blankLines (shows : Shows ⟨size, lines⟩ content) (first count : Nat) :
    Shows ⟨size, Stretch.fill first count (Row.blank size.columns) lines⟩
      (fun place =>
        if first ≤ place.row ∧ place.row < first + count then some Cell.blank
        else content place) where
  filled := shows.filled.fill
  cell?_eq place inside := by
    obtain ⟨cells, found, length_eq, shown⟩ := shows.exists_line inside.row_lt
    have exists_row : place.row < lines.length := shows.filled.length_eq ▸ inside.row_lt
    by_cases within : first ≤ place.row ∧ place.row < first + count
    · have replaced : (Stretch.fill first count (Row.blank size.columns) lines)[place.row]? =
          some (Row.blank size.columns) := by
        rw [Stretch.getElem?_fill, if_pos ⟨within.1, within.2, exists_row⟩]
      have column_lt : place.column < size.columns := inside.column_lt
      rw [if_pos within, cell?_of_line replaced, Row.blank, List.getElem?_replicate,
        if_pos column_lt]
    · have kept : (Stretch.fill first count (Row.blank size.columns) lines)[place.row]? =
          some cells := by
        rw [Stretch.getElem?_fill, if_neg fun hit => within ⟨hit.1, hit.2.1⟩, found]
      rw [if_neg within, cell?_of_line kept, shown place.column inside.column_lt]

end Shows

end RoguePilot.Screen
