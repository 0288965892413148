/-!
# Moving entries within a stretch of a list

Scrolling and editing move some entries of a list towards its front or its back, and only within a
stretch of consecutive positions. What leaves the stretch is lost, what becomes vacant is filled, and
nothing outside the stretch changes. A stretch is given by its first and its last position.
-/

namespace RoguePilot.Stretch

variable {α : Type}

/-- Moves the entries of a stretch `count` positions towards the front. -/
def pull (first last count : Nat) (filler : α) (entries : List α) : List α :=
  let inside := (entries.drop first).take (last + 1 - first)
  entries.take first ++ (inside.drop count ++ List.replicate (min count inside.length) filler) ++
    entries.drop (last + 1)

/-- Moves the entries of a stretch `count` positions towards the back. -/
def push (first last count : Nat) (filler : α) (entries : List α) : List α :=
  let inside := (entries.drop first).take (last + 1 - first)
  entries.take first ++
    (List.replicate (min count inside.length) filler ++ inside.take (inside.length - count)) ++
    entries.drop (last + 1)

/-- Fills `count` positions from the first one on, as far as there are any. -/
def fill (first count : Nat) (filler : α) (entries : List α) : List α :=
  entries.take first ++ List.replicate (min count (entries.length - first)) filler ++
    entries.drop (first + count)

/-- A stretch that lies within the list keeps its length when its entries move to the front. -/
theorem length_pull {first last count : Nat} {filler : α} {entries : List α}
    (ordered : first ≤ last + 1) :
    (pull first last count filler entries).length = entries.length := by
  simp only [pull, List.length_append, List.length_take, List.length_drop, List.length_replicate]
  omega

/-- A stretch that lies within the list keeps its length when its entries move to the back. -/
theorem length_push {first last count : Nat} {filler : α} {entries : List α}
    (ordered : first ≤ last + 1) :
    (push first last count filler entries).length = entries.length := by
  simp only [push, List.length_append, List.length_take, List.length_drop, List.length_replicate]
  omega

/-- Filling keeps the length. -/
theorem length_fill (first count : Nat) (filler : α) (entries : List α) :
    (fill first count filler entries).length = entries.length := by
  simp only [fill, List.length_append, List.length_take, List.length_drop, List.length_replicate]
  omega

end RoguePilot.Stretch
