import RoguePilot.Proofs.Text.Search

/-!
# Labelled values

A text of labelled values is a row of entries, each a label, a blank, a value and a gap. A label that
occurs in no label and no value before its own is found where it belongs.
-/

namespace RoguePilot.Text

/-- A character between entries: a blank or a line end. -/
def isGap (character : Char) : Bool :=
  character = ' ' || character = '\n'

/-- A value behind a label, and what separates it from the next one. -/
structure Entry where
  /-- The label. -/
  label : List Char
  /-- The value. -/
  value : List Char
  /-- What stands between the value and the next label. -/
  gap : List Char

namespace Entry

/-- The entry as text. -/
def text (entry : Entry) : List Char :=
  entry.label ++ ' ' :: (entry.value ++ entry.gap)

/-- The label can be told from its surroundings. -/
structure Parted (entry : Entry) : Prop where
  /-- The label is not empty. -/
  label_ne_nil : entry.label ≠ []
  /-- No gap is within the label. -/
  label_solid : ∀ character ∈ entry.label, isGap character = false
  /-- The value is separated from the next label. -/
  gap_ne_nil : entry.gap ≠ []
  /-- The gap is nothing but a gap. -/
  gap_blank : ∀ character ∈ entry.gap, isGap character = true

/-- The word is found neither in the label nor in the value. -/
structure Lacks (entry : Entry) (word : List Char) : Prop where
  /-- The label does not contain it. -/
  label : occurs word entry.label = false
  /-- The value does not contain it. -/
  value : occurs word entry.value = false

end Entry

/-- Entries one after the other. -/
def entriesText (entries : List Entry) : List Char :=
  entries.flatMap Entry.text

section Passing

variable {α : Type} {label left gap right : List Char} {read : List Char → Option α}
  (nonempty : label ≠ []) (solid : ∀ character ∈ label, isGap character = false)

include nonempty solid

theorem readAfter_gap (blank : ∀ character ∈ gap, isGap character = true) :
    readAfter label read (gap ++ right) = readAfter label read right := by
  induction gap with
  | nil => rfl
  | cons separator gap induction =>
      obtain ⟨here, later⟩ := List.forall_mem_cons.mp blank
      have separates : separator ∉ label := fun member =>
        Bool.false_ne_true ((solid _ member).symm.trans here)
      have nowhere : occurs label [] = false := List.isEmpty_eq_false_iff.mpr nonempty
      exact (readAfter_separated separates nonempty nowhere).trans (induction later)

theorem readAfter_passed (absent : occurs label left = false) (some : gap ≠ [])
    (blank : ∀ character ∈ gap, isGap character = true) :
    readAfter label read (left ++ (gap ++ right)) = readAfter label read right := by
  obtain ⟨separator, rest, rfl⟩ := List.exists_cons_of_ne_nil some
  obtain ⟨here, later⟩ := List.forall_mem_cons.mp blank
  have separates : separator ∉ label := fun member =>
    Bool.false_ne_true ((solid _ member).symm.trans here)
  rw [List.cons_append, readAfter_separated separates nonempty absent,
    readAfter_gap nonempty solid later]

theorem readAfter_entry {entry : Entry} (parted : entry.Parted) (lacks : entry.Lacks label) :
    readAfter label read (entry.text ++ right) = readAfter label read right := by
  have blank : ∀ character ∈ [' '], isGap character = true := List.forall_mem_singleton.mpr rfl
  have text_eq : entry.text ++ right =
      entry.label ++ ([' '] ++ (entry.value ++ (entry.gap ++ right))) := by
    simp [Entry.text]
  rw [text_eq, readAfter_passed nonempty solid lacks.label (List.cons_ne_nil _ _) blank,
    readAfter_passed nonempty solid lacks.value parted.gap_ne_nil parted.gap_blank]

end Passing

section Entries

variable {entries : List Entry} (parted : ∀ entry ∈ entries, entry.Parted)
  (apart : entries.Pairwise fun earlier later => earlier.Lacks later.label)

include parted apart

/-- Each value is read behind its own label. -/
theorem readAfter_entries {α : Type} {read : List Char → Option α} {value : α} {entry : Entry}
    {index : Nat} (place : entries[index]? = some entry)
    (readable : read (' ' :: (entry.value ++
      (entry.gap ++ entriesText (entries.drop (index + 1))))) = some value) :
    readAfter entry.label read (entriesText entries) = some value := by
  induction entries generalizing index with
  | nil => cases place
  | cons first entries induction =>
      obtain ⟨parted_first, parted_later⟩ := List.forall_mem_cons.mp parted
      obtain ⟨first_lacks, later_apart⟩ := List.pairwise_cons.mp apart
      rw [entriesText, List.flatMap_cons]
      cases index with
      | zero =>
          cases place
          rw [Entry.text, List.append_assoc, List.cons_append, List.append_assoc]
          exact readAfter_here readable
      | succ index =>
          have member : entry ∈ entries := List.mem_of_getElem? place
          have parted_entry := parted_later entry member
          rw [readAfter_entry parted_entry.label_ne_nil parted_entry.label_solid parted_first
            (first_lacks entry member)]
          exact induction parted_later later_apart place readable

/-- Behind whatever contains none of them, the labels are found in their order. -/
theorem inOrder_labels {left gap : List Char} (absent : ∀ entry ∈ entries, occurs entry.label left = false)
    (some : gap ≠ []) (blank : ∀ character ∈ gap, isGap character = true) (count : Nat) :
    inOrder 1 ((entries.take count).map Entry.label) (left ++ (gap ++ entriesText entries)) = true := by
  induction entries generalizing left gap count with
  | nil => rw [List.take_nil, List.map_nil, inOrder]
  | cons first entries induction =>
      obtain ⟨parted_first, parted_later⟩ := List.forall_mem_cons.mp parted
      obtain ⟨first_lacks, later_apart⟩ := List.pairwise_cons.mp apart
      have found : afterFirst first.label (left ++ (gap ++ entriesText (first :: entries))) =
          Option.some (' ' :: (first.value ++ (first.gap ++ entriesText entries))) := by
        rw [afterFirst_eq_readAfter, readAfter_passed parted_first.label_ne_nil
          parted_first.label_solid (absent first List.mem_cons_self) some blank, entriesText,
          List.flatMap_cons, Entry.text, List.append_assoc, List.cons_append, List.append_assoc]
        exact readAfter_here rfl
      cases count with
      | zero => rfl
      | succ count =>
          have rest := induction parted_later later_apart (fun entry member => (first_lacks entry member).value)
            parted_first.gap_ne_nil parted_first.gap_blank count
          rw [List.take_succ_cons, List.map_cons]
          cases labels : (entries.take count).map Entry.label with
          | nil => rw [inOrder, found, Option.isSome_some]
          | cons next labels =>
              rw [labels] at rest
              rw [inOrder, found]
              exact rest

end Entries

end RoguePilot.Text
