import RoguePilot.Text.Search

/-!
# What a search finds

What is read after a label, or follows the first occurrence of a word, is what stands behind it somewhere
in the text, so a text in which words are found in order contains every character of the first one. A
label is found within a word only, that is between separators it does not contain.
-/

namespace RoguePilot.Text

variable {α : Type} {label : List Char} {read : List Char → Option α}

/-- What is read after a label is what stands behind it somewhere in the text. -/
theorem exists_of_readAfter {text : List Char} {value : α}
    (found : readAfter label read text = some value) :
    ∃ before after, text = before ++ label ++ after ∧ read after = some value := by
  have here {rest : List Char} (dropped : (dropWord label rest).bind read = some value) :
      ∃ after, rest = label ++ after ∧ read after = some value := by
    obtain ⟨after, label_eq, readable⟩ := Option.bind_eq_some_iff.mp dropped
    exact ⟨after, dropWord_eq_some.mp label_eq, readable⟩
  induction text with
  | nil =>
      obtain ⟨after, text_eq, readable⟩ := here found
      exact ⟨[], after, text_eq, readable⟩
  | cons character rest induction =>
      rw [readAfter] at found
      split at found
      · next dropped =>
        cases found
        obtain ⟨after, text_eq, readable⟩ := here dropped
        exact ⟨[], after, text_eq, readable⟩
      · obtain ⟨before, after, rfl, readable⟩ := induction found
        exact ⟨character :: before, after, rfl, readable⟩

/-- What follows a word is what can be read behind it when anything can be read. -/
theorem afterFirst_eq_readAfter (word text : List Char) :
    afterFirst word text = readAfter word some text := by
  induction text with
  | nil => rw [afterFirst, readAfter, Option.bind_fun_some]
  | cons character rest induction =>
      rw [afterFirst, readAfter, Option.bind_fun_some]
      cases dropWord word (character :: rest) with
      | none => exact induction
      | some following => rfl

theorem exists_of_afterFirst {word text following : List Char}
    (found : afterFirst word text = some following) :
    ∃ before, text = before ++ word ++ following := by
  rw [afterFirst_eq_readAfter] at found
  obtain ⟨before, after, text_eq, same⟩ := exists_of_readAfter found
  cases same
  exact ⟨before, text_eq⟩

theorem mem_of_inOrder {gap : Nat} {word text : List Char} {words : List (List Char)}
    (found : inOrder gap (word :: words) text = true) {character : Char}
    (member : character ∈ word) : character ∈ text := by
  have first : ∃ following, afterFirst word text = some following := by
    cases words with
    | nil => exact Option.isSome_iff_exists.mp found
    | cons next words =>
        rw [inOrder] at found
        split at found
        · cases found
        · next following here => exact ⟨following, here⟩
  obtain ⟨following, here⟩ := first
  obtain ⟨before, text_eq⟩ := exists_of_afterFirst here
  rw [text_eq]
  simp [member]

/-! ## Where a label does not stand -/

theorem dropWord_eq_none_iff {word text : List Char} :
    dropWord word text = none ↔ word.isPrefixOf text = false := by
  rw [Option.eq_none_iff_forall_ne_some, Bool.eq_false_iff, ne_eq, List.isPrefixOf_iff_prefix]
  constructor
  · rintro none ⟨following, rfl⟩
    exact none following (dropWord_eq_some.mpr rfl)
  · intro absent following found
    exact absent ⟨following, (dropWord_eq_some.mp found).symm⟩

theorem dropWord_cons_self (character : Char) (word text : List Char) :
    dropWord (character :: word) (character :: text) = dropWord word text := if_pos rfl

theorem dropWord_of_head? {expected : Char} {word text : List Char}
    (stopped : ∀ character ∈ text.head?, character ≠ expected) :
    dropWord (expected :: word) text = none := by
  cases text with
  | nil => rfl
  | cons character text => exact if_neg (stopped character rfl).symm

theorem occurs_iff_inside {word text : List Char} : occurs word text = true ↔ word <:+: text := by
  induction text with
  | nil => rw [occurs, List.isEmpty_iff, List.infix_nil]
  | cons character rest induction =>
      rw [occurs, Bool.or_eq_true, List.isPrefixOf_iff_prefix, induction, List.infix_cons_iff]

theorem mem_of_occurs {word text : List Char} (found : occurs word text = true) {character : Char}
    (member : character ∈ word) : character ∈ text :=
  (occurs_iff_inside.mp found).subset member

theorem occurs_append_left {word right : List Char} (left : List Char) (found : occurs word right = true) :
    occurs word (left ++ right) = true := by
  induction left with
  | nil => exact found
  | cons character left induction => rw [List.cons_append, occurs, induction, Bool.or_true]

theorem without_of_notMem {unwanted : Char} {text : List Char} (absent : unwanted ∉ text) :
    without unwanted text = text :=
  List.filter_eq_self.mpr fun _ member => decide_eq_true (ne_of_mem_of_not_mem member absent)

theorem readAfter_here {rest : List Char} {value : α} (readable : read rest = some value) :
    readAfter label read (label ++ rest) = some value := by
  have dropped : dropWord label (label ++ rest) = some rest := dropWord_eq_some.mpr rfl
  cases text : label ++ rest with
  | nil => rw [readAfter, ← text, dropped, Option.bind_some, readable]
  | cons character following =>
      rw [readAfter, ← text, dropped, Option.bind_some, readable]

/-- The value stands behind the first place of the label behind which any value stands. -/
def StandsFirst (label : List Char) (shows : List Char → α → Prop) (text : List Char) (value : α) : Prop :=
  ∃ before after, text = before ++ (label ++ after) ∧ shows after value ∧
    ∀ earlier later other, text = earlier ++ (label ++ later) → shows later other →
      before.length ≤ earlier.length

theorem bind_dropWord_eq_some_iff {text : List Char} {value : α} :
    (dropWord label text).bind read = some value ↔ ∃ after, text = label ++ after ∧ read after = some value := by
  simp only [Option.bind_eq_some_iff, dropWord_eq_some]

/-- What is read after a label is the value that stands there first. -/
theorem readAfter_eq_some_iff {shows : List Char → α → Prop}
    (reads : ∀ after value, read after = some value ↔ shows after value) {text : List Char} {value : α} :
    readAfter label read text = some value ↔ StandsFirst label shows text value := by
  obtain rfl : shows = fun after value => read after = some value :=
    funext fun after => funext fun value => propext (reads after value).symm
  induction text with
  | nil =>
      rw [readAfter, bind_dropWord_eq_some_iff]
      constructor
      · rintro ⟨after, text_eq, readable⟩
        exact ⟨[], after, text_eq, readable, fun _ _ _ _ _ => Nat.zero_le _⟩
      · rintro ⟨before, after, text_eq, readable, -⟩
        exact ⟨after, (List.append_eq_nil_iff.mp text_eq.symm).2.symm, readable⟩
  | cons character text induction =>
      rw [readAfter]
      cases found : (dropWord label (character :: text)).bind read with
      | some here =>
          obtain ⟨after, text_eq, readable⟩ := bind_dropWord_eq_some_iff.mp found
          constructor
          · rintro ⟨⟩
            exact ⟨[], after, text_eq, readable, fun _ _ _ _ _ => Nat.zero_le _⟩
          · rintro ⟨before, later, split, readable_later, first⟩
            cases before with
            | nil => exact found.symm.trans (bind_dropWord_eq_some_iff.mpr ⟨later, split, readable_later⟩)
            | cons head before => exact absurd (first [] after here text_eq readable) (Nat.not_succ_le_zero _)
      | none =>
          have nothing (after : List Char) (other : α) (split : character :: text = label ++ after) :
              read after ≠ some other := fun readable =>
            nomatch found.symm.trans (bind_dropWord_eq_some_iff.mpr ⟨after, split, readable⟩)
          dsimp only
          rw [induction]
          constructor
          · rintro ⟨before, after, rfl, readable, first⟩
            refine ⟨character :: before, after, rfl, readable, ?_⟩
            intro earlier later other split readable_later
            cases earlier with
            | nil => exact absurd readable_later (nothing later other split)
            | cons head earlier =>
                exact Nat.succ_le_succ (first earlier later other (List.cons.inj split).2 readable_later)
          · rintro ⟨before, after, split, readable, first⟩
            cases before with
            | nil => exact absurd readable (nothing after value split)
            | cons head before =>
                obtain ⟨rfl, rfl⟩ := List.cons.inj split
                refine ⟨before, after, rfl, readable, ?_⟩
                intro earlier later other same readable_later
                exact Nat.le_of_succ_le_succ
                  (first (character :: earlier) later other (congrArg (character :: ·) same) readable_later)

section Separated

variable {separator : Char} {left right : List Char}

/-- A word without the separator does not reach across it. -/
theorem isPrefix_of_separated {word : List Char} (separates : separator ∉ word)
    (begins : word <+: left ++ separator :: right) : word <+: left := by
  induction word generalizing left with
  | nil => exact List.nil_prefix
  | cons first word induction =>
      obtain ⟨not_first, not_later⟩ := List.ne_and_not_mem_of_not_mem_cons separates
      cases left with
      | nil =>
          rw [List.nil_append, List.cons_prefix_cons] at begins
          exact absurd begins.1.symm not_first
      | cons character left =>
          rw [List.cons_append, List.cons_prefix_cons] at begins
          rw [List.cons_prefix_cons]
          exact ⟨begins.1, induction not_later begins.2⟩

variable (separates : separator ∉ label)

include separates

theorem occurs_separated (nonempty : label ≠ []) :
    occurs label (left ++ separator :: right) = (occurs label left || occurs label right) := by
  induction left with
  | nil =>
      have elsewhere : label.isPrefixOf (separator :: right) = false := by
        rw [Bool.eq_false_iff, ne_eq, List.isPrefixOf_iff_prefix]
        intro begins
        have within : label <+: [] := isPrefix_of_separated separates begins
        exact nonempty (List.prefix_nil.mp within)
      have nowhere : label.isEmpty = false := List.isEmpty_eq_false_iff.mpr nonempty
      rw [List.nil_append, occurs, occurs, elsewhere, nowhere]
  | cons character left induction =>
      have same : label.isPrefixOf (character :: left ++ separator :: right) =
          label.isPrefixOf (character :: left) := by
        rw [Bool.eq_iff_iff, List.isPrefixOf_iff_prefix, List.isPrefixOf_iff_prefix]
        exact ⟨isPrefix_of_separated separates, fun begins => begins.trans (List.prefix_append _ _)⟩
      rw [List.cons_append] at same ⊢
      rw [occurs, occurs, same, induction, Bool.or_assoc]

theorem readAfter_separated (nonempty : label ≠ []) (absent : occurs label left = false) :
    readAfter label read (left ++ separator :: right) = readAfter label read right := by
  induction left with
  | nil =>
      have elsewhere : dropWord label (separator :: right) = none := by
        rw [dropWord_eq_none_iff, Bool.eq_false_iff, ne_eq, List.isPrefixOf_iff_prefix]
        intro begins
        have within : label <+: [] := isPrefix_of_separated separates begins
        exact nonempty (List.prefix_nil.mp within)
      rw [List.nil_append, readAfter, elsewhere]
      rfl
  | cons character left induction =>
      rw [occurs, Bool.or_eq_false_iff] at absent
      have elsewhere : dropWord label (character :: (left ++ separator :: right)) = none := by
        rw [dropWord_eq_none_iff, Bool.eq_false_iff, ne_eq, List.isPrefixOf_iff_prefix]
        intro begins
        have within : label <+: character :: left := isPrefix_of_separated separates begins
        rw [← List.isPrefixOf_iff_prefix, absent.1] at within
        contradiction
      rw [List.cons_append, readAfter, elsewhere]
      exact induction absent.2

end Separated

/-! ## Characters of one kind -/

theorem ne_of_holds {holds : Char → Bool} {character excluded : Char} (here : holds character = true)
    (elsewhere : holds excluded = false) : character ≠ excluded := by
  rintro rfl
  exact Bool.false_ne_true (elsewhere.symm.trans here)

theorem forall_mem_head?_cons {holds : Char → Prop} {first : Char} (here : holds first) (rest : List Char) :
    ∀ character ∈ (first :: rest).head?, holds character := by
  rintro _ ⟨⟩
  exact here

section Kind

variable {belongs : Char → Bool} {inside rest : List Char}

theorem takeWhile_of_stopped (stopped : ∀ character ∈ rest.head?, belongs character = false) :
    rest.takeWhile belongs = [] := by
  cases rest with
  | nil => rfl
  | cons character rest => exact List.takeWhile_cons_of_neg (Bool.eq_false_iff.mp (stopped _ rfl))

theorem dropWhile_of_stopped (stopped : ∀ character ∈ rest.head?, belongs character = false) :
    rest.dropWhile belongs = rest := by
  cases rest with
  | nil => rfl
  | cons character rest => exact List.dropWhile_cons_of_neg (Bool.eq_false_iff.mp (stopped _ rfl))

variable (belongs) in
theorem forall_mem_head?_dropWhile (text : List Char) :
    ∀ character ∈ (text.dropWhile belongs).head?, belongs character = false := by
  intro character first
  have head := List.head?_dropWhile_not belongs text
  rw [Option.mem_def.mp first] at head
  exact head

variable (all : ∀ character ∈ inside, belongs character = true)

include all

theorem takeWhile_append (stopped : ∀ character ∈ rest.head?, belongs character = false) :
    (inside ++ rest).takeWhile belongs = inside := by
  rw [List.takeWhile_append_of_pos all, takeWhile_of_stopped stopped, List.append_nil]

theorem dropWhile_append (stopped : ∀ character ∈ rest.head?, belongs character = false) :
    (inside ++ rest).dropWhile belongs = rest := by
  rw [List.dropWhile_append_of_pos all, dropWhile_of_stopped stopped]

end Kind

end RoguePilot.Text
