/-!
# Aligned fields

A field of a report has a least width and is filled up with blanks. A text that is longer than the field
is not cut.
-/

namespace RoguePilot.Text

/-- The text at the right end of a field. -/
def alignRight (width : Nat) (text : List Char) : List Char :=
  List.replicate (width - text.length) ' ' ++ text

/-- The text at the left end of a field. -/
def alignLeft (width : Nat) (text : List Char) : List Char :=
  text ++ List.replicate (width - text.length) ' '

end RoguePilot.Text
