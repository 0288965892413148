import RoguePilot.Game.StatusPanel
import RoguePilot.Proofs.Text.Search

/-!
# Reading the panel twice

Taking a snapshot of a screen over the snapshot already taken of it changes nothing: what the panel
shows is read again, what it does not show is carried over, and the noise bar does not depend on
what was known. Nor does any of this depend on the findings of the score, which the panel never
touches.
-/

namespace RoguePilot

/-- The snapshot with other findings of the score. -/
def Snapshot.withFindings (snapshot : Snapshot) (won died escapedWithoutOrb hasOrb : Bool) :
    Snapshot :=
  { snapshot with won, died, escapedWithoutOrb, hasOrb }

namespace StatusPanel

variable {screen : Screen} {previous : Snapshot}

/-! ## A second reading -/

/-- A value that would be carried over is the value itself. -/
theorem getD_getD {α : Type} (reading : Option α) (carried : α) :
    reading.getD (reading.getD carried) = reading.getD carried := by
  cases reading with
  | none => rfl
  | some value => rfl

theorem over_over (reading : Reading) (previous : Snapshot) :
    reading.over (reading.over previous) = reading.over previous := by
  simp only [Reading.over, Prod.eta, getD_getD, Bool.or_assoc, Bool.or_self]

theorem snapshot_snapshot (screen : Screen) (previous : Snapshot) :
    snapshot screen (snapshot screen previous) = snapshot screen previous := by
  unfold snapshot
  split
  · exact over_over _ previous
  · rfl

theorem snapshot_withFindings (screen : Screen) (previous : Snapshot)
    (won died escapedWithoutOrb hasOrb : Bool) :
    snapshot screen (previous.withFindings won died escapedWithoutOrb hasOrb) =
      (snapshot screen previous).withFindings won died escapedWithoutOrb hasOrb := by
  unfold snapshot
  split <;> rfl

/-! ## What a snapshot tells and keeps -/

theorem onMainScreen_snapshot (screen : Screen) (previous : Snapshot) :
    (snapshot screen previous).onMainScreen = isShown screen := by
  unfold snapshot
  split
  · next shown => exact shown.symm
  · next hidden => exact (Bool.eq_false_iff.mpr hidden).symm

/-- A game that has started stays started. -/
theorem started_snapshot (started : previous.started = true) :
    (snapshot screen previous).started = true := by
  unfold snapshot
  split
  · simp [snapshotOfText, Reading.over, started]
  · exact started

@[simp] theorem isFinished_snapshot (screen : Screen) (previous : Snapshot) :
    (snapshot screen previous).isFinished = previous.isFinished := by
  unfold snapshot
  split <;> rfl

@[simp] theorem hasOrb_snapshot (screen : Screen) (previous : Snapshot) :
    (snapshot screen previous).hasOrb = previous.hasOrb := by
  unfold snapshot
  split <;> rfl

/-! ## The blank screen -/

/-- The text of a rectangle consists of line ends and glyphs of the screen. -/
theorem mem_regionText {near far : Position} {character : Char}
    (member : character ∈ screen.regionText near far) :
    character = '\n' ∨ ∃ row ∈ screen.lines, ∃ cell ∈ row, cell.glyph = character := by
  simp only [Screen.regionText, Screen.linesText, List.mem_flatMap, List.mem_map,
    List.mem_append, List.mem_singleton] at member
  obtain ⟨_, ⟨row, row_member, rfl⟩, glyph_member | line_end⟩ := member
  · right
    have shown := List.mem_of_mem_take (List.mem_of_mem_drop glyph_member)
    obtain ⟨cell, cell_member, rfl⟩ := List.mem_map.mp shown
    have inside := List.mem_of_mem_take (List.mem_of_mem_drop row_member)
    exact ⟨row, inside, cell, cell_member, rfl⟩
  · exact .inl line_end

/-- No panel is drawn on a blank screen, whatever its extent. -/
theorem isShown_blank (size : Size) : isShown (Screen.blank size) = false := by
  rw [Bool.eq_false_iff]
  intro shown
  have letter : 'H' ∈ text (Screen.blank size) := Text.mem_of_inOrder shown (by decide)
  rcases mem_regionText letter with line_end | ⟨row, row_member, cell, cell_member, glyph_eq⟩
  · contradiction
  · rw [List.eq_of_mem_replicate row_member] at cell_member
    rw [List.eq_of_mem_replicate cell_member] at glyph_eq
    contradiction

end StatusPanel

end RoguePilot
