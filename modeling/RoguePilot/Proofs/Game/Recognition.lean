import RoguePilot.Game.StatusPanel
import RoguePilot.Game.View
import RoguePilot.Proofs.Text.Order

/-!
# Recognising what is on display

A full-screen view is recognised from the text that has arrived, and the main screen from the text of its
panel. Both go by labels in their order, whatever stands between them. For a view neither the line ends nor
what arrives behind the labels matters, so it is recognised however its output is cut into pieces.
-/

namespace RoguePilot

open Text

variable {text : List Char}

namespace View

/-- The labels of the character sheet with anything between them that is no line end. -/
def sheetPattern : Pattern :=
  .chain (.many (· ≠ '\n')) sheetLabels

theorem inOrder_sheetLabels_iff :
    inOrder 0 sheetLabels text = true ↔ StandInOrder (fun _ => True) sheetLabels text := by
  rw [inOrder_iff_standInOrder (by decide)]
  exact standInOrder_congr fun gap _ => iff_true_intro (Nat.zero_le gap.length)

/-- In a text without line ends a search for the pattern finds the labels wherever they stand in order. -/
theorem search_sheetPattern_isSome (solid : '\n' ∉ text) :
    (sheetPattern.search text).isSome = inOrder 0 sheetLabels text := by
  have gaps (taken : List Char) :
      (∃ kept, (Pattern.many (· ≠ '\n')).Matches taken kept) ↔ ∀ character ∈ taken, character ≠ '\n' := by
    simp [Pattern.matches_many_iff]
  rw [Bool.eq_iff_iff, sheetPattern, search_chain_isSome_iff gaps, inOrder_sheetLabels_iff]
  refine standInOrder_congr fun gap inside => iff_true_intro fun character member => ?_
  exact ne_of_mem_of_not_mem (inside.subset member) solid

theorem occursAny_footers_iff : occursAny footers text = true ↔ ∃ footer ∈ footers, footer <:+: text := by
  simp only [occursAny, List.any_eq_true, occurs_iff_inside]

/-- What arrives later does not hide a view. -/
theorem isComplete_append (complete : isComplete text = true) (more : List Char) :
    isComplete (text ++ more) = true := by
  simp only [isComplete, Bool.or_eq_true, occursAny_footers_iff, inOrder_sheetLabels_iff, without_append]
    at complete ⊢
  rcases complete with ⟨footer, member, inside⟩ | stand
  · exact .inl ⟨footer, member, inside.trans (List.prefix_append _ _).isInfix⟩
  · exact .inr (stand.append _)

end View

namespace StatusPanel

/-- The labels of the panel with something between each and the next, line ends or not. -/
def landmarkPattern : Pattern :=
  .chain (.several fun _ => true) landmarks

theorem inOrder_landmarks_iff : inOrder 1 landmarks text = true ↔ StandInOrder (· ≠ []) landmarks text := by
  rw [inOrder_iff_standInOrder (by decide)]
  exact standInOrder_congr fun gap _ => List.length_pos_iff

theorem search_landmarkPattern_isSome : (landmarkPattern.search text).isSome = inOrder 1 landmarks text := by
  have gaps (taken : List Char) :
      (∃ kept, (Pattern.several fun _ => true).Matches taken kept) ↔ taken ≠ [] := by
    simp [Pattern.exists_matches_several_iff]
  rw [Bool.eq_iff_iff, landmarkPattern, search_chain_isSome_iff gaps, inOrder_landmarks_iff]

end StatusPanel

/--
A view that is recognised stays so whatever arrives behind it, and line ends make no difference. It is
recognised by a footer or by the labels of the character sheet in their order, and the main screen by labels
in their order with something between them. A matcher that tries every gap finds both just then.
-/
theorem recognised_however_it_arrives (text : List Char) (screen : Screen) :
    (∀ more, View.isComplete text = true → View.isComplete (text ++ more) = true) ∧
      (∀ other, without '\n' other = without '\n' text → View.isComplete other = View.isComplete text) ∧
      (View.isComplete text = true ↔
        (∃ footer ∈ View.footers, footer <:+: without '\n' text) ∨
          inOrder 0 View.sheetLabels (without '\n' text) = true) ∧
      (inOrder 0 View.sheetLabels (without '\n' text) = true ↔
        ∃ before first second third after, without '\n' text = before ++ "HPRegen ".toList ++ first ++
          "MPRegen ".toList ++ second ++ "@: ".toList ++ third ++ "A: ".toList ++ after) ∧
      (View.sheetPattern.search (without '\n' text)).isSome = inOrder 0 View.sheetLabels (without '\n' text) ∧
      (StatusPanel.isShown screen = true ↔
        ∃ before first second third after, StatusPanel.text screen = before ++ "Health:".toList ++ first ++
          "Magic:".toList ++ second ++ "AC:".toList ++ third ++ "Str:".toList ++ after ∧
            first ≠ [] ∧ second ≠ [] ∧ third ≠ []) ∧
      (StatusPanel.landmarkPattern.search (StatusPanel.text screen)).isSome = StatusPanel.isShown screen := by
  refine ⟨fun more complete => View.isComplete_append complete more, fun other same => ?_, ?_, ?_, ?_, ?_,
    StatusPanel.search_landmarkPattern_isSome⟩
  · rw [View.isComplete, View.isComplete, same]
  · rw [View.isComplete, Bool.or_eq_true, View.occursAny_footers_iff]
  · rw [View.inOrder_sheetLabels_iff, View.sheetLabels, standInOrder_four_iff]
    simp only [and_true]
  · exact View.search_sheetPattern_isSome fun line_end =>
      of_decide_eq_true (List.mem_filter.mp line_end).2 rfl
  · rw [StatusPanel.isShown, StatusPanel.inOrder_landmarks_iff, StatusPanel.landmarks, standInOrder_four_iff]

/-- The footer of the skills is recognised across a line end, without it, and with more output behind it. -/
theorem recognised_however_it_arrives_skills :
    let text := "Skill  Level costs|tar\ngets".toList
    let other := "Skill\n  Level costs|targets".toList
    View.isComplete text = true ∧ View.isComplete (text ++ "\x1b[H".toList) = true ∧
      without '\n' other = without '\n' text ∧ View.isComplete other = View.isComplete text := by
  intro text other
  have complete : View.isComplete text = true := by decide +kernel
  have same : without '\n' other = without '\n' text := by decide +kernel
  obtain ⟨later, independent, -⟩ := recognised_however_it_arrives text (Screen.blank ⟨80, 24⟩)
  exact ⟨complete, later _ complete, same, independent other same⟩

end RoguePilot
