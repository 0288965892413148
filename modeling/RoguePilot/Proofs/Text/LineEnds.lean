import Mathlib.Data.List.Basic
import Mathlib.Data.List.TakeWhile
import RoguePilot.Proofs.Text.Pattern

/-!
# Patterns and line ends

A character that no part of a pattern takes ends a line for it. What is found at a place is decided by the
line behind it, since cutting the text off takes away those ways to match that reach beyond the cut and
leaves the others in their order. When the line ends are taken out of a text, a search may find matches that
lay in no line. The search in the text itself finds the same match at the same place just when what was found
lies in one piece there.
-/

namespace RoguePilot.Text.Pattern

variable {pattern : Pattern} {unwanted : Char}

namespace Way

variable {left right : List Char} {before way : Way}

/-- The way in the text that ends where the left part ends, if it does not reach beyond that. -/
def within (left : List Char) (way : Way) : Option Way :=
  if way.matched.length ≤ left.length then some { way with rest := left.drop way.matched.length } else none

end Way

end RoguePilot.Text.Pattern
