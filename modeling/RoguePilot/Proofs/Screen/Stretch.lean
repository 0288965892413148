import RoguePilot.Screen.Stretch

/-!
# Stretches entry by entry

Each way of moving a stretch is described by what it puts at every position of the list. The
description makes moves of several positions compositions of moves of one position, and a move of
one position is a removal followed by an insertion.
-/

namespace RoguePilot.Stretch

variable {α : Type} {first last count index : Nat} {filler : α} {entries : List α}

/-- Towards the front, an entry of the stretch is replaced by the one `count` positions later. -/
theorem getElem?_pull (ordered : first ≤ last) (inside : last < entries.length) :
    (pull first last count filler entries)[index]? =
      if first ≤ index ∧ index ≤ last then
        if index + count ≤ last then entries[index + count]? else some filler
      else entries[index]? := by
  simp only [pull, List.getElem?_append, List.length_append, List.length_take, List.length_drop,
    List.length_replicate, List.getElem?_take, List.getElem?_drop, List.getElem?_replicate]
  grind

/-- Towards the back, an entry of the stretch is replaced by the one `count` positions earlier. -/
theorem getElem?_push (ordered : first ≤ last) (inside : last < entries.length) :
    (push first last count filler entries)[index]? =
      if first ≤ index ∧ index ≤ last then
        if first + count ≤ index then entries[index - count]? else some filler
      else entries[index]? := by
  simp only [push, List.getElem?_append, List.length_append, List.length_take, List.length_drop,
    List.length_replicate, List.getElem?_take, List.getElem?_drop, List.getElem?_replicate]
  grind

/-- Filling replaces the entries at `count` positions from the first one on. -/
theorem getElem?_fill :
    (fill first count filler entries)[index]? =
      if first ≤ index ∧ index < first + count ∧ index < entries.length then some filler
      else entries[index]? := by
  simp only [fill, List.getElem?_append, List.length_append, List.length_take,
    List.length_replicate, List.getElem?_take, List.getElem?_drop, List.getElem?_replicate]
  grind

theorem pull_zero (ordered : first ≤ last) (inside : last < entries.length) :
    pull first last 0 filler entries = entries := by
  apply List.ext_getElem?
  intro index
  rw [getElem?_pull ordered inside]
  grind

theorem pull_pull {more : Nat} (ordered : first ≤ last) (inside : last < entries.length) :
    pull first last more filler (pull first last count filler entries) =
      pull first last (count + more) filler entries := by
  apply List.ext_getElem?
  intro index
  rw [getElem?_pull ordered (by rwa [length_pull (by omega)]), getElem?_pull ordered inside,
    getElem?_pull ordered inside, getElem?_pull ordered inside]
  grind

theorem pull_one (ordered : first ≤ last) (inside : last < entries.length) :
    pull first last 1 filler entries = (entries.eraseIdx first).insertIdx last filler := by
  apply List.ext_getElem?
  intro index
  rw [getElem?_pull ordered inside, List.getElem?_insertIdx, List.length_eraseIdx_of_lt (by omega)]
  simp only [List.getElem?_eraseIdx]
  grind

theorem push_zero (ordered : first ≤ last) (inside : last < entries.length) :
    push first last 0 filler entries = entries := by
  apply List.ext_getElem?
  intro index
  rw [getElem?_push ordered inside]
  grind

theorem push_push {more : Nat} (ordered : first ≤ last) (inside : last < entries.length) :
    push first last more filler (push first last count filler entries) =
      push first last (count + more) filler entries := by
  apply List.ext_getElem?
  intro index
  rw [getElem?_push ordered (by rwa [length_push (by omega)]), getElem?_push ordered inside,
    getElem?_push ordered inside, getElem?_push ordered inside]
  grind

theorem push_one (ordered : first ≤ last) (inside : last < entries.length) :
    push first last 1 filler entries = (entries.eraseIdx last).insertIdx first filler := by
  apply List.ext_getElem?
  intro index
  rw [getElem?_push ordered inside, List.getElem?_insertIdx, List.length_eraseIdx_of_lt (by omega)]
  simp only [List.getElem?_eraseIdx]
  grind

/-- Beyond the height of the stretch, moving further makes no difference. -/
theorem pull_min (ordered : first ≤ last) (inside : last < entries.length) :
    pull first last (min count (last - first + 1)) filler entries =
      pull first last count filler entries := by
  apply List.ext_getElem?
  intro index
  rw [getElem?_pull ordered inside, getElem?_pull ordered inside]
  grind

theorem push_min (ordered : first ≤ last) (inside : last < entries.length) :
    push first last (min count (last - first + 1)) filler entries =
      push first last count filler entries := by
  apply List.ext_getElem?
  intro index
  rw [getElem?_push ordered inside, getElem?_push ordered inside]
  grind

/-- Filling stops at the end of the list. -/
theorem fill_min :
    fill first (min count (entries.length - first)) filler entries =
      fill first count filler entries := by
  apply List.ext_getElem?
  intro index
  rw [getElem?_fill, getElem?_fill]
  grind

/-! ## What the entries are -/

theorem mem_of_mem_pull {entry : α} (member : entry ∈ pull first last count filler entries) :
    entry = filler ∨ entry ∈ entries := by
  simp only [pull, List.mem_append, List.mem_replicate] at member
  rcases member with (front | moved | vacant) | back
  · exact Or.inr (List.mem_of_mem_take front)
  · exact Or.inr (List.mem_of_mem_drop (List.mem_of_mem_take (List.mem_of_mem_drop moved)))
  · exact Or.inl vacant.2
  · exact Or.inr (List.mem_of_mem_drop back)

theorem mem_of_mem_push {entry : α} (member : entry ∈ push first last count filler entries) :
    entry = filler ∨ entry ∈ entries := by
  simp only [push, List.mem_append, List.mem_replicate] at member
  rcases member with (front | vacant | moved) | back
  · exact Or.inr (List.mem_of_mem_take front)
  · exact Or.inl vacant.2
  · exact Or.inr (List.mem_of_mem_drop (List.mem_of_mem_take (List.mem_of_mem_take moved)))
  · exact Or.inr (List.mem_of_mem_drop back)

theorem mem_of_mem_fill {entry : α} (member : entry ∈ fill first count filler entries) :
    entry = filler ∨ entry ∈ entries := by
  simp only [fill, List.mem_append, List.mem_replicate] at member
  rcases member with (front | vacant) | back
  · exact Or.inr (List.mem_of_mem_take front)
  · exact Or.inl vacant.2
  · exact Or.inr (List.mem_of_mem_drop back)

end RoguePilot.Stretch
