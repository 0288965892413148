import RoguePilot.Terminal.Command

/-!
# Graphic rendition

The numbers of a rendition sequence change the style one after the other. Most numbers stand alone;
38 and 48 introduce a colour and take the numbers after them along, whether or not the colour can be
shown. Only the sixteen hues of the palette can be.
-/

namespace RoguePilot.Terminal.Rendition

/-- The style change of a number that stands alone. -/
def single? (code : Nat) : Option Restyle :=
  if code = 0 then some .plain
  else if code = 1 then some (.bold true)
  else if code = 22 then some (.bold false)
  else if 30 ≤ code ∧ code ≤ 37 then (Hue.ofIndex? (code - 30)).map fun hue => .foreground (.hue hue)
  else if code = 39 then some (.foreground .standard)
  else if 40 ≤ code ∧ code ≤ 47 then (Hue.ofIndex? (code - 40)).map fun hue => .background (.hue hue)
  else if code = 49 then some (.background .standard)
  else if 90 ≤ code ∧ code ≤ 97 then
    (Hue.ofIndex? (code - 90 + 8)).map fun hue => .foreground (.hue hue)
  else if 100 ≤ code ∧ code ≤ 107 then
    (Hue.ofIndex? (code - 100 + 8)).map fun hue => .background (.hue hue)
  else none

/-- Where an introduced colour goes: 38 introduces a foreground, 48 a background. -/
def introduced? : Nat → Option (Color → Restyle)
  | 38 => some .foreground
  | 48 => some .background
  | _ => none

/--
Reads the numbers after an introducer: the colour, if it can be shown, and the numbers left over. After 5
comes a palette index, after 2 come three components, and any other number stands for itself.
-/
def extended : List Nat → Option Color × List Nat
  | [] => (none, [])
  | [5] => (none, [])
  | 5 :: index :: rest => ((Hue.ofIndex? index).map .hue, rest)
  | 2 :: rest => (none, rest.drop 3)
  | _ :: rest => (none, rest)

theorem length_extended (codes : List Nat) : (extended codes).2.length ≤ codes.length := by
  fun_cases extended codes <;> simp <;> omega

/-- The style changes of a list of numbers. -/
def changes : List Nat → List Restyle
  | [] => []
  | code :: codes =>
    match introduced? code with
    | some place =>
      ((extended codes).1.map place).toList ++ changes (extended codes).2
    | none => (single? code).toList ++ changes codes
termination_by codes => codes.length
decreasing_by
  · exact Nat.lt_succ_of_le (length_extended codes)
  · simp

/-- The commands of a rendition sequence; without numbers it means the default style. -/
def commands (codes : List Nat) : List Command :=
  if codes.isEmpty then [.restyle .plain] else (changes codes).map .restyle

end RoguePilot.Terminal.Rendition
