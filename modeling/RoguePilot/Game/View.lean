import RoguePilot.Text.Search

/-!
# Full-screen views

Some views replace the main screen. The pilot knows the footers that are drawn last on them, so that it
can tell when such a view is complete, wherever line ends fall in between.
-/

namespace RoguePilot.View

/-- The footers of the views for abilities, religion, skills, spells and monsters. -/
def footers : List (List Char) :=
  [ "to toggle between ability selection and description.".toList,
    "Powers|Wrath".toList,
    "costs|targets".toList,
    "Describe|Hide|Show".toList,
    "to toggle spell view.".toList,
    "shown in red if you are in range.".toList ]

/-- The labels of the character sheet, in their order. -/
def sheetLabels : List (List Char) :=
  ["HPRegen ".toList, "MPRegen ".toList, "@: ".toList, "A: ".toList]

/-- The text, line ends aside, contains a footer or the labels of the character sheet. -/
def isComplete (text : List Char) : Bool :=
  let flat := Text.without '\n' text
  Text.occursAny footers flat || Text.inOrder 0 sheetLabels flat

end RoguePilot.View
