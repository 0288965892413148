import RoguePilot.Proofs.Screen.Content

/-!
# Where a glyph is found

A search for a glyph goes through the lines from the top, and through each of them from the left. It finds
the place that shows the glyph and before which none does.
-/

namespace RoguePilot

/-- The search passes a place before another one. -/
def Position.Precedes (place other : Position) : Prop :=
  place.row < other.row ∨ place.row = other.row ∧ place.column < other.column

namespace Screen

/-- The place shows the glyph, and none before it does. -/
structure ShowsFirst (screen : Screen) (glyph : Char) (place : Position) : Prop where
  /-- The place shows the glyph. -/
  shown : ∃ cell ∈ screen.cell? place, cell.glyph = glyph
  /-- No place before it does. -/
  first : ∀ earlier : Position, earlier.Precedes place → ∀ cell ∈ screen.cell? earlier, cell.glyph ≠ glyph

/-- What is shown is shown inside of the screen. -/
theorem ShowsFirst.contains {screen : Screen} {glyph : Char} {place : Position}
    (shows : screen.ShowsFirst glyph place) (filled : screen.size.FilledBy screen.lines) :
    screen.size.Contains place := by
  obtain ⟨cell, found, -⟩ := shows.shown
  obtain ⟨cells, line_found, column_found⟩ := Option.bind_eq_some_iff.mp found
  have row_lt := (List.getElem?_eq_some_iff.mp line_found).1
  have column_lt := (List.getElem?_eq_some_iff.mp column_found).1
  have fits := filled.fits cells (List.mem_of_getElem? line_found)
  exact ⟨filled.length_eq ▸ row_lt, fits.length_eq ▸ column_lt⟩

variable {size : Size} {top : Row} {lines : List Row} {glyph : Char} {row column : Nat}

/-- What comes first on the top line comes first. -/
theorem showsFirst_top :
    ShowsFirst ⟨size, top :: lines⟩ glyph ⟨0, column⟩ ↔
      (top.findIdx? fun cell => cell.glyph = glyph) = some column := by
  rw [List.findIdx?_eq_some_iff_getElem]
  constructor
  · rintro ⟨⟨cell, found, glyph_eq⟩, first⟩
    obtain ⟨inside, rfl⟩ := List.getElem?_eq_some_iff.mp found
    refine ⟨inside, decide_eq_true glyph_eq, fun before lt => ?_⟩
    rw [decide_eq_true_eq]
    exact first ⟨0, before⟩ (.inr ⟨rfl, lt⟩) _ (List.getElem?_eq_getElem (Nat.lt_trans lt inside))
  · rintro ⟨inside, glyph_eq, first⟩
    refine ⟨⟨_, List.getElem?_eq_getElem inside, of_decide_eq_true glyph_eq⟩, ?_⟩
    rintro ⟨_, before⟩ (above | ⟨rfl, lt⟩) cell found
    · exact absurd above (Nat.not_lt_zero _)
    · obtain ⟨-, rfl⟩ := List.getElem?_eq_some_iff.mp found
      exact mt decide_eq_true (first before lt)

/-- What comes first below the top line comes first if the top line does not show the glyph. -/
theorem showsFirst_below :
    ShowsFirst ⟨size, top :: lines⟩ glyph ⟨row + 1, column⟩ ↔
      (top.findIdx? fun cell => cell.glyph = glyph) = none ∧
        ShowsFirst ⟨size, lines⟩ glyph ⟨row, column⟩ := by
  rw [List.findIdx?_eq_none_iff]
  constructor
  · rintro ⟨shown, first⟩
    refine ⟨fun cell member => ?_, shown, ?_⟩
    · obtain ⟨before, found⟩ := List.mem_iff_getElem?.mp member
      exact decide_eq_false (first ⟨0, before⟩ (.inl (Nat.succ_pos row)) cell found)
    · rintro ⟨above, before⟩ precedes
      refine first ⟨above + 1, before⟩ ?_
      simpa [Position.Precedes] using precedes
  · rintro ⟨absent, shown, first⟩
    refine ⟨shown, ?_⟩
    rintro ⟨above, before⟩ precedes cell found
    cases above with
    | zero => exact of_decide_eq_false (absent cell (List.mem_of_getElem? found))
    | succ above =>
        refine first ⟨above, before⟩ ?_ cell found
        simpa [Position.Precedes] using precedes

theorem findFrom_eq_some_iff (size : Size) {place : Position} :
    findFrom glyph row lines = some place ↔
      ∃ index, place.row = row + index ∧ ShowsFirst ⟨size, lines⟩ glyph ⟨index, place.column⟩ := by
  induction lines generalizing row with
  | nil =>
      constructor
      · exact fun absent => nomatch absent
      · rintro ⟨index, -, ⟨cell, found, -⟩, -⟩
        exact nomatch found
  | cons top lines induction =>
      rw [findFrom]
      cases found : top.findIdx? fun cell => cell.glyph = glyph with
      | some column =>
          constructor
          · rintro ⟨⟩
            exact ⟨0, rfl, showsFirst_top.mpr found⟩
          · rintro ⟨index, row_eq, shows⟩
            cases index with
            | zero =>
                obtain rfl := Option.some.inj (found.symm.trans (showsFirst_top.mp shows))
                exact congrArg (fun row => some (Position.mk row place.column)) row_eq.symm
            | succ index => exact absurd (found.symm.trans (showsFirst_below.mp shows).1) nofun
      | none =>
          dsimp only
          rw [induction]
          constructor
          · rintro ⟨index, row_eq, shows⟩
            exact ⟨index + 1, by omega, showsFirst_below.mpr ⟨found, shows⟩⟩
          · rintro ⟨index, row_eq, shows⟩
            cases index with
            | zero => exact absurd (found.symm.trans (showsFirst_top.mp shows)) nofun
            | succ index => exact ⟨index, by omega, (showsFirst_below.mp shows).2⟩

/-- A glyph is found where it is shown first. -/
theorem find?_eq_some_iff {screen : Screen} {place : Position} :
    screen.find? glyph = some place ↔ screen.ShowsFirst glyph place := by
  rw [find?, findFrom_eq_some_iff screen.size]
  constructor
  · rintro ⟨index, row_eq, shows⟩
    rw [Nat.zero_add] at row_eq
    subst row_eq
    exact shows
  · exact fun shows => ⟨place.row, (Nat.zero_add _).symm, shows⟩

end Screen

end RoguePilot
