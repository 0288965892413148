/-!
# Searching a text

A text is a list of characters. This file finds fixed words in a text: whether a word occurs, what
follows its first occurrence, whether several words occur one after the other, and the leftmost place
where a label is followed by something readable.
-/

namespace RoguePilot.Text

/-- The word occurs somewhere in the text. -/
def occurs (word : List Char) : List Char → Bool
  | [] => word.isEmpty
  | character :: rest => word.isPrefixOf (character :: rest) || occurs word rest

/-- One of the words occurs somewhere in the text. -/
def occursAny (words : List (List Char)) (text : List Char) : Bool :=
  words.any fun word => occurs word text

/-- What is left of the text after the word at its start, if the text starts with it. -/
def dropWord : List Char → List Char → Option (List Char)
  | [], text => some text
  | _ :: _, [] => none
  | expected :: word, character :: rest =>
    if expected = character then dropWord word rest else none

/-- What follows the first occurrence of the word. -/
def afterFirst (word : List Char) : List Char → Option (List Char)
  | [] => dropWord word []
  | character :: rest =>
    match dropWord word (character :: rest) with
    | some following => some following
    | none => afterFirst word rest

/--
The words occur in this order without overlap, with at least `gap` characters between each and the
next. Taking the first occurrence each time leaves the most room for the words that follow.
-/
def inOrder (gap : Nat) : List (List Char) → List Char → Bool
  | [], _ => true
  | [word], text => (afterFirst word text).isSome
  | word :: next :: words, text =>
    match afterFirst word text with
    | none => false
    | some following => inOrder gap (next :: words) (following.drop gap)

/-- What `read` makes of the text at the leftmost place where the label is followed by a readable text. -/
def readAfter {α : Type} (label : List Char) (read : List Char → Option α) :
    List Char → Option α
  | [] => (dropWord label []).bind read
  | character :: rest =>
    match (dropWord label (character :: rest)).bind read with
    | some value => some value
    | none => readAfter label read rest

/-- The text without the given character. -/
def without (unwanted : Char) (text : List Char) : List Char :=
  text.filter (· ≠ unwanted)

/-- The text without the given character at its end. -/
def trimEnd (unwanted : Char) (text : List Char) : List Char :=
  (text.reverse.dropWhile (· = unwanted)).reverse

/-- The text ends with the word. -/
def endsWith (word text : List Char) : Bool :=
  word.isSuffixOf text

theorem occurs_append_right {word left : List Char} (right : List Char)
    (found : occurs word left = true) : occurs word (left ++ right) = true := by
  induction left with
  | nil =>
      have empty : word = [] := by simpa [occurs] using found
      subst empty
      cases right <;> simp [occurs]
  | cons character rest induction =>
      simp only [occurs, Bool.or_eq_true, List.cons_append] at found ⊢
      rcases found with here | later
      · left
        rw [List.isPrefixOf_iff_prefix] at here ⊢
        exact here.trans ⟨right, by simp⟩
      · exact Or.inr (induction later)

theorem dropWord_eq_some {word text following : List Char} :
    dropWord word text = some following ↔ text = word ++ following := by
  induction word generalizing text with
  | nil => simp [dropWord]
  | cons expected word induction =>
      cases text with
      | nil => simp [dropWord]
      | cons character rest =>
          simp only [dropWord, List.cons_append, List.cons.injEq]
          split
          · next same => rw [induction]; simp [same]
          · next different =>
              simp only [reduceCtorEq, false_iff, not_and]
              intro same
              exact absurd same.symm different

@[simp] theorem without_append (unwanted : Char) (left right : List Char) :
    without unwanted (left ++ right) = without unwanted left ++ without unwanted right := by
  simp [without]

end RoguePilot.Text
