import RoguePilot.Game.StatusPanel
import RoguePilot.Proofs.Number.Numeral
import RoguePilot.Proofs.Terminal.WholeSequence
import RoguePilot.Proofs.Text.Search

/-!
# Values of the panel as they are written

Each form of a value reads what was written in that form, given that what follows does not go on with it.
-/

namespace RoguePilot.StatusPanel

open Text

variable {character : Char} {number other : Nat} {rest : List Char}

theorem isDecimalDigit_of_isDigit (digit : character.isDigit = true) :
    isDecimalDigit character = true := by
  have bounds := Terminal.Interpreter.isDigit_iff.mp digit
  rw [isDecimalDigit, if_pos (by omega), digit]

theorem isDecimalDigit_decimal :
    ∀ character ∈ Numeral.decimal number, isDecimalDigit character = true := fun _ member =>
  isDecimalDigit_of_isDigit (Numeral.isDigit_of_mem_decimal member)

theorem skipSpaces_blank (text : List Char) : skipSpaces (' ' :: text) = skipSpaces text := rfl

theorem skipSpaces_of_head? (stopped : ∀ character ∈ rest.head?, character ≠ ' ') :
    skipSpaces rest = rest :=
  dropWhile_of_stopped fun character first => decide_eq_false (stopped character first)

theorem head?_append_ne {belongs : Char → Bool} {excluded : Char} {inside : List Char}
    (rest : List Char) (nonempty : inside ≠ []) (all : ∀ character ∈ inside, belongs character = true)
    (excludes : belongs excluded = false) :
    ∀ character ∈ (inside ++ rest).head?, character ≠ excluded := by
  intro character first
  rw [List.head?_append_of_ne_nil _ nonempty] at first
  exact ne_of_holds (all character (List.mem_of_head? first)) excludes

theorem wordForm_append {belongs : Char → Bool} {word : List Char} (nonempty : word ≠ [])
    (all : ∀ character ∈ word, belongs character = true) (solid : belongs ' ' = false)
    (stopped : ∀ character ∈ rest.head?, belongs character = false) :
    wordForm belongs (' ' :: (word ++ rest)) = some word := by
  have begins := head?_append_ne rest nonempty all solid
  rw [wordForm, skipSpaces_blank, skipSpaces_of_head? begins, takeWhile_append all stopped,
    List.isEmpty_eq_false_iff.mpr nonempty]
  rfl

theorem digits?_decimal (stopped : ∀ character ∈ rest.head?, isDecimalDigit character = false) :
    digits? (' ' :: (Numeral.decimal number ++ rest)) = some (Numeral.decimal number, rest) := by
  have nonempty := Numeral.decimal_ne_nil number
  have begins := head?_append_ne rest nonempty isDecimalDigit_decimal
    (show isDecimalDigit ' ' = false by decide)
  rw [digits?, skipSpaces_blank, skipSpaces_of_head? begins,
    takeWhile_append isDecimalDigit_decimal stopped, dropWhile_append isDecimalDigit_decimal stopped,
    List.isEmpty_eq_false_iff.mpr nonempty]
  rfl

theorem oneForm_decimal (stopped : ∀ character ∈ rest.head?, isDecimalDigit character = false) :
    oneForm (' ' :: (Numeral.decimal number ++ rest)) = some (Numeral.decimal number) := by
  rw [oneForm, digits?_decimal stopped]
  rfl

theorem slashForm_decimal (stopped : ∀ character ∈ rest.head?, isDecimalDigit character = false) :
    slashForm (' ' :: (Numeral.decimal number ++ '/' :: (Numeral.decimal other ++ rest))) =
      some (Numeral.decimal number, Numeral.decimal other) := by
  have slash : ∀ character ∈ ('/' :: (Numeral.decimal other ++ rest)).head?,
      isDecimalDigit character = false := forall_mem_head?_cons (by decide) _
  rw [slashForm, digits?_decimal slash]
  simp only [Option.bind_some]
  rw [takeWhile_append isDecimalDigit_decimal stopped,
    List.isEmpty_eq_false_iff.mpr (Numeral.decimal_ne_nil other)]
  rfl

theorem experienceForm_decimal :
    experienceForm (' ' :: (Numeral.decimal number ++
      " Next: ".toList ++ (Numeral.decimal other ++ '%' :: rest))) =
      some (Numeral.decimal number, Numeral.decimal other) := by
  have blank : ∀ character ∈ (" Next: ".toList ++ (Numeral.decimal other ++ '%' :: rest)).head?,
      isDecimalDigit character = false :=
    forall_mem_head?_cons (by decide : isDecimalDigit ' ' = false) _
  have percent : ∀ character ∈ ('%' :: rest).head?, isDecimalDigit character = false :=
    forall_mem_head?_cons (by decide) rest
  have label : dropWord "Next:".toList
      (skipSpaces (" Next: ".toList ++ (Numeral.decimal other ++ '%' :: rest))) =
        some (' ' :: (Numeral.decimal other ++ '%' :: rest)) := dropWord_eq_some.mpr rfl
  rw [experienceForm, List.append_assoc, digits?_decimal blank, Option.bind_some, label,
    Option.bind_some, oneForm_decimal percent]
  rfl

theorem barForm_replicate (length : Nat)
    (stopped : ∀ character ∈ (skipSpaces rest).head?, character ≠ '=') :
    barForm (' ' :: (List.replicate length '=' ++ ' ' :: rest)) =
      some (List.replicate length '=') := by
  rw [barForm, skipSpaces_blank]
  cases length with
  | zero =>
      have none : (skipSpaces rest).takeWhile (· = '=') = [] :=
        takeWhile_of_stopped fun character first => decide_eq_false (stopped character first)
      rw [List.replicate_zero, List.nil_append, skipSpaces_blank, none]
  | succ length =>
      have some : List.replicate (length + 1) '=' ≠ [] := List.cons_ne_nil _ _
      have all : ∀ character ∈ List.replicate (length + 1) '=', (character = '=' : Bool) = true := by
        intro character member
        exact decide_eq_true (List.eq_of_mem_replicate member)
      have begins := head?_append_ne (' ' :: rest) some all
        (show decide (' ' = '=') = false by decide)
      have blank : ∀ character ∈ (' ' :: rest).head?, (character = '=' : Bool) = false :=
        forall_mem_head?_cons (by decide : decide (' ' = '=') = false) rest
      rw [skipSpaces_of_head? begins, takeWhile_append all blank]

theorem number?_decimal (bounded : number ≤ greatestNumber) :
    number? (Numeral.decimal number) = some (number : Int) := by
  rw [number?, Numeral.decimalUpTo?_decimal bounded]
  rfl

end RoguePilot.StatusPanel
