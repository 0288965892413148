import RoguePilot.Proofs.Number.Numeral
import RoguePilot.Proofs.Terminal.WholeSequence

/-!
# The numbers of a control sequence

The parameters of a control sequence are decimal numerals between separators. What they stand for is said
here without the interpreter, which reads them digit by digit: the text is split at its separators, and
each piece is read as a whole.
-/

namespace RoguePilot.Terminal

namespace Interpreter

/-! ## What is written -/

/-- The characters between numbers. -/
def isSeparator (character : Char) : Bool :=
  character = ';' || character = ':'

/-- The number of a piece, cut to the greatest parameter. An empty piece has none. -/
def number? (piece : List Char) : Option Nat :=
  (Numeral.value? 10 piece).map (min greatestParameter)

/-- The numbers of pieces. A piece without a number counts as zero, but at the end it does not count. -/
def numbersOfPieces : List (List Char) → List Nat
  | [] => []
  | [piece] => (number? piece).toList
  | piece :: pieces => (number? piece).getD 0 :: numbersOfPieces pieces

/-- The numbers that parameters stand for. -/
def numbersOf (parameters : List Char) : List Nat :=
  numbersOfPieces (parameters.splitOnP isSeparator)

theorem numbersOfPieces_cons {pieces : List (List Char)} (more : pieces ≠ []) (piece : List Char) :
    numbersOfPieces (piece :: pieces) = (number? piece).getD 0 :: numbersOfPieces pieces := by
  cases pieces with
  | nil => contradiction
  | cons => rfl

/-- With no piece begun, the pieces are those of the rest. -/
theorem modifyHead_nil_append (pieces : List (List Char)) :
    pieces.modifyHead ([] ++ ·) = pieces :=
  congrFun List.modifyHead_id pieces

variable {character : Char} {piece : List Char}

theorem isNumeric_eq (character : Char) :
    isNumeric character = (character.isDigit || isSeparator character) :=
  Bool.or_assoc ..

theorem isSeparator_of_isDigit (digit : character.isDigit = true) : isSeparator character = false := by
  have bounds := isDigit_iff.mp digit
  simp only [isSeparator, Bool.or_eq_false_iff, decide_eq_false_iff_not, eq_iff_toNat_eq,
    Char.reduceToNat]
  omega

theorem number?_getD (digits : ∀ character ∈ piece, character.isDigit = true) :
    (number? piece).getD 0 = min greatestParameter (Nat.ofDigitChars 10 piece 0) := by
  cases piece with
  | nil => rfl
  | cons first rest =>
      rw [number?, Numeral.value?_digits (List.cons_ne_nil _ _) digits]
      rfl

/-! ## Digit by digit -/

theorem feed_parameters_digit (dialect : Dialect) (complete : List Nat) (current : Option Nat)
    (digit : character.isDigit = true) :
    feed (.parameters dialect complete current) character =
      (.parameters dialect complete
        (some (extendParameter (current.getD 0) (character.toNat - '0'.toNat))), []) := by
  have bounds := isDigit_iff.mp digit
  rw [feed_of_visible _ (by omega), read, afterParameters, digit?, if_pos digit]

theorem feed_parameters_separator (dialect : Dialect) (complete : List Nat) (current : Option Nat)
    (separates : isSeparator character = true) :
    feed (.parameters dialect complete current) character =
      (.parameters dialect (complete ++ [current.getD 0]) none, []) := by
  have separator : character = ';' ∨ character = ':' := by simpa [isSeparator] using separates
  rcases separator with rfl | rfl
  · rfl
  · rfl

/-- The introducer is followed by numbers as if there had been some before, but not by a colon. -/
theorem feed_entry_eq_feed_parameters (dialect : Dialect) (numeric : isNumeric character = true)
    (not_colon : character ≠ ':') :
    feed (.entry dialect) character = feed (.parameters dialect [] none) character := by
  cases digit : character.isDigit with
  | true =>
      have bounds := isDigit_iff.mp digit
      have small : extendParameter 0 (character.toNat - '0'.toNat) =
          character.toNat - '0'.toNat := by
        simp only [extendParameter, greatestParameter, Char.reduceToNat]
        omega
      rw [feed_parameters_digit dialect [] none digit, feed_of_visible _ (by omega), read, afterEntry,
        digit?, if_pos digit, Option.getD_none, small]
  | false =>
      obtain rfl : character = ';' := by simpa [isNumeric, digit, not_colon] using numeric
      rfl

/-- One more digit makes the number of the piece that is one digit longer. -/
theorem extendParameter_number? (digits : ∀ character ∈ piece, character.isDigit = true)
    (digit : character.isDigit = true) :
    some (extendParameter ((number? piece).getD 0) (character.toNat - '0'.toNat)) =
      number? (piece ++ [character]) := by
  have longer : ∀ other ∈ piece ++ [character], other.isDigit = true :=
    List.forall_mem_append.mpr ⟨digits, List.forall_mem_singleton.mpr digit⟩
  have value_eq : Nat.ofDigitChars 10 (piece ++ [character]) 0 =
      10 * Nat.ofDigitChars 10 piece 0 + (character.toNat - '0'.toNat) := by
    rw [Nat.ofDigitChars_append]
    rfl
  rw [number?_getD digits, number?, Numeral.value?_digits (by simp) longer, value_eq]
  simp only [Option.map_some, extendParameter, greatestParameter, Option.some.injEq]
  omega

/-- With a piece begun and the numbers before it known, the rest of the parameters completes them. -/
theorem feedAll_parameters (dialect : Dialect) (complete : List Nat)
    (digits : ∀ character ∈ piece, character.isDigit = true) {rest : List Char}
    (numeric : ∀ character ∈ rest, isNumeric character = true) :
    ∃ next, feedAll (.parameters dialect complete (number? piece)) rest = (next, []) ∧
      Collects dialect
        (complete ++ numbersOfPieces ((rest.splitOnP isSeparator).modifyHead (piece ++ ·))) next := by
  induction rest generalizing complete piece with
  | nil =>
      refine ⟨_, rfl, ?_⟩
      rw [List.splitOnP_nil, List.modifyHead_cons, List.append_nil]
      exact .parameters complete (number? piece)
  | cons character rest induction =>
      obtain ⟨here, later⟩ := List.forall_mem_cons.mp numeric
      rw [isNumeric_eq, Bool.or_eq_true] at here
      rw [List.splitOnP_cons_eq_if_modifyHead]
      rcases here with digit | separates
      · obtain ⟨next, silent, collects⟩ := induction complete
          (List.forall_mem_append.mpr ⟨digits, List.forall_mem_singleton.mpr digit⟩) later
        rw [← extendParameter_number? digits digit] at silent
        refine ⟨next, ?_, ?_⟩
        · rw [feedAll_cons_of_silent (feed_parameters_digit dialect complete _ digit), silent]
        · have joined : ((piece ++ ·) ∘ List.cons character) = (piece ++ [character] ++ ·) := by
            funext text
            exact List.append_cons piece character text
          rw [if_neg (Bool.eq_false_iff.mp (isSeparator_of_isDigit digit)), List.modifyHead_modifyHead,
            joined]
          exact collects
      · obtain ⟨next, silent, collects⟩ := induction
          (complete ++ [(number? piece).getD 0]) (List.forall_mem_nil _) later
        refine ⟨next, ?_, ?_⟩
        · rw [feedAll_cons_of_silent (feed_parameters_separator dialect complete _ separates)]
          exact silent
        · rw [modifyHead_nil_append, List.append_assoc] at collects
          rw [if_pos separates, List.modifyHead_cons, List.append_nil,
            numbersOfPieces_cons (List.splitOnP_ne_nil _ _)]
          exact collects

variable {parameters : List Char} {final : Char}

/-- Parameters that begin with a digit or a semicolon are read as they are written. -/
theorem feedAll_entry (dialect : Dialect)
    (numeric : ∀ character ∈ parameters, isNumeric character = true)
    (not_colon : parameters.head? ≠ some ':') :
    ∃ next, feedAll (.entry dialect) parameters = (next, []) ∧
      Collects dialect (numbersOf parameters) next := by
  cases parameters with
  | nil => exact ⟨_, rfl, .entry⟩
  | cons first rest =>
      have begins : feed (.entry dialect) first = feed (.parameters dialect [] none) first :=
        feed_entry_eq_feed_parameters dialect (numeric first List.mem_cons_self)
          (by simpa using not_colon)
      have same : feedAll (.entry dialect) (first :: rest) =
          feedAll (.parameters dialect [] none) (first :: rest) := by
        rw [feedAll, feedAll, begins]
      have whole := feedAll_parameters dialect [] (List.forall_mem_nil _) numeric
      rw [modifyHead_nil_append] at whole
      rw [same]
      exact whole

/-- The final character acts on the numbers that are written before it. -/
theorem feedAll_entry_final (dialect : Dialect)
    (numeric : ∀ character ∈ parameters, isNumeric character = true)
    (not_colon : parameters.head? ≠ some ':') (ends : isFinal final = true) :
    feedAll (.entry dialect) (parameters ++ [final]) =
      (.ground, sequenceCommands dialect final (numbersOf parameters)) := by
  obtain ⟨next, silent, collects⟩ := feedAll_entry dialect numeric not_colon
  rw [feedAll_append_of_silent silent, feedAll, collects.feed_final ends, feedAll_nil, List.append_nil]

/-- A standard sequence acts on the numbers that are written in it. -/
theorem feedAll_standard (numeric : ∀ character ∈ parameters, isNumeric character = true)
    (not_colon : parameters.head? ≠ some ':') (ends : isFinal final = true) :
    feedAll .ground (escapeCharacter :: '[' :: (parameters ++ [final])) =
      (.ground, standardCommands final (numbersOf parameters)) := by
  rw [feedAll_opening, feedAll_entry_final _ numeric not_colon ends]
  rfl

/-! ## Pieces between semicolons -/

/-- Pieces with semicolons between them. -/
def listed (pieces : List (List Char)) : List Char :=
  [';'].intercalate pieces

@[simp] theorem listed_singleton (piece : List Char) : listed [piece] = piece :=
  List.intercalate_singleton

theorem listed_cons {pieces : List (List Char)} (more : pieces ≠ []) (piece : List Char) :
    listed (piece :: pieces) = piece ++ ';' :: listed pieces :=
  (List.intercalate_cons_of_ne_nil more).trans (List.append_assoc ..)

section Listed

variable {pieces : List (List Char)}
  (digits : ∀ piece ∈ pieces, ∀ character ∈ piece, character.isDigit = true)
include digits

theorem splitOnP_listed (some : pieces ≠ []) : (listed pieces).splitOnP isSeparator = pieces := by
  induction pieces with
  | nil => contradiction
  | cons piece pieces induction =>
      obtain ⟨here, later⟩ := List.forall_mem_cons.mp digits
      have whole : ∀ character ∈ piece, isSeparator character = false := fun character member =>
        isSeparator_of_isDigit (here character member)
      by_cases more : pieces = []
      · rw [more, listed_singleton]
        exact List.splitOnP_eq_singleton whole
      · have separates : isSeparator ';' = true := by decide
        rw [listed_cons more, List.splitOnP_append_cons_of_forall_mem whole _ separates,
          induction later more]

theorem numbersOf_listed (some : pieces ≠ []) : numbersOf (listed pieces) = numbersOfPieces pieces :=
  congrArg numbersOfPieces (splitOnP_listed digits some)

theorem plain_of_mem_listed :
    ∀ character ∈ listed pieces, character.isDigit = true ∨ character = ';' := by
  induction pieces with
  | nil => exact List.forall_mem_nil _
  | cons piece pieces induction =>
      obtain ⟨here, later⟩ := List.forall_mem_cons.mp digits
      have whole : ∀ character ∈ piece, character.isDigit = true ∨ character = ';' :=
        fun character member => .inl (here character member)
      by_cases more : pieces = []
      · rw [more, listed_singleton]
        exact whole
      · rw [listed_cons more]
        exact List.forall_mem_append.mpr
          ⟨whole, List.forall_mem_cons.mpr ⟨.inr rfl, induction later⟩⟩

end Listed

section Plain

variable {numbers : List Char}
  (plain : ∀ character ∈ numbers, character.isDigit = true ∨ character = ';')
include plain

theorem isNumeric_of_plain : ∀ character ∈ numbers, isNumeric character = true := by
  intro character member
  rcases plain character member with digit | rfl
  · rw [isNumeric_eq, digit, Bool.true_or]
  · decide

theorem head?_ne_colon_of_plain : numbers.head? ≠ some ':' := by
  intro begins
  rcases plain ':' (List.mem_of_head? begins) with digit | same
  · contradiction
  · contradiction

end Plain

/-! ## Numerals between separators -/

theorem number?_decimal (number : Nat) :
    number? (Numeral.decimal number) = some (min greatestParameter number) := by
  rw [number?, Numeral.value?_decimal]
  rfl

section Pair

variable (first second : Nat)

theorem isDigit_of_mem_pair :
    ∀ piece ∈ [Numeral.decimal first, Numeral.decimal second],
      ∀ character ∈ piece, character.isDigit = true := by
  have numeral (number : Nat) : ∀ character ∈ Numeral.decimal number, character.isDigit = true :=
    fun _ => Numeral.isDigit_of_mem_decimal
  exact List.forall_mem_cons.mpr ⟨numeral first, List.forall_mem_singleton.mpr (numeral second)⟩

theorem listed_pair : listed [Numeral.decimal first, Numeral.decimal second] =
    Numeral.decimal first ++ ';' :: Numeral.decimal second := by
  rw [listed_cons (List.cons_ne_nil _ _), listed_singleton]

/-- Two numerals with a semicolon between them are two numbers. -/
theorem numbersOf_pair :
    numbersOf (Numeral.decimal first ++ ';' :: Numeral.decimal second) =
      [min greatestParameter first, min greatestParameter second] := by
  rw [← listed_pair, numbersOf_listed (isDigit_of_mem_pair first second) (List.cons_ne_nil _ _),
    numbersOfPieces_cons (List.cons_ne_nil _ _), numbersOfPieces, number?_decimal, number?_decimal]
  rfl

theorem plain_of_mem_pair :
    ∀ character ∈ Numeral.decimal first ++ ';' :: Numeral.decimal second,
      character.isDigit = true ∨ character = ';' := by
  rw [← listed_pair]
  exact plain_of_mem_listed (isDigit_of_mem_pair first second)

theorem isNumeric_of_mem_pair :
    ∀ character ∈ Numeral.decimal first ++ ';' :: Numeral.decimal second,
      isNumeric character = true :=
  isNumeric_of_plain (plain_of_mem_pair first second)

theorem head?_pair_ne_colon :
    (Numeral.decimal first ++ ';' :: Numeral.decimal second).head? ≠ some ':' :=
  head?_ne_colon_of_plain (plain_of_mem_pair first second)

end Pair

end Interpreter

end RoguePilot.Terminal
