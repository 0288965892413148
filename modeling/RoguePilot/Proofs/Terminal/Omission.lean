import RoguePilot.Proofs.Terminal.Groups
import RoguePilot.Proofs.Terminal.Interruption

/-!
# Omitted numbers

A number that is omitted from a control sequence counts as zero, wherever the gap is: to every sequence but
one a zero at the end means nothing more than no number there. The exception is the rendition sequence,
which loses the zero when its last number is omitted, although it takes it for the default style, or for
black, when it is written.
-/

namespace RoguePilot.Terminal

open Interpreter Rendition

/-! ## One more zero -/

section OneMoreZero

variable (numbers : List Nat) (terminal : Terminal)

theorem countOf_concat_zero : countOf (numbers ++ [0]) = countOf numbers := by
  cases numbers with
  | nil => rfl
  | cons => rfl

theorem codeOf_concat_zero : codeOf (numbers ++ [0]) = codeOf numbers := by
  cases numbers with
  | nil => rfl
  | cons => rfl

theorem first_concat_zero : (numbers ++ [0]).headD 1 - 1 = numbers.headD 1 - 1 := by
  cases numbers with
  | nil => rfl
  | cons => rfl

theorem second_concat_zero : secondOf (numbers ++ [0]) - 1 = secondOf numbers - 1 := by
  match numbers with
  | [] => rfl
  | [_] => rfl
  | _ :: _ :: _ => rfl

theorem bottomOf_concat_zero : bottomOf (numbers ++ [0]) = bottomOf numbers := by
  match numbers with
  | [] => rfl
  | [_] => rfl
  | _ :: _ :: _ => rfl

theorem setPosition_concat_zero :
    terminal.setPosition ((numbers ++ [0]).headD 1) (secondOf (numbers ++ [0])) =
      terminal.setPosition (numbers.headD 1) (secondOf numbers) := by
  rw [setPosition, setPosition, first_concat_zero, second_concat_zero]

theorem setRegion_concat_zero (bottom : Nat) :
    terminal.setRegion ((numbers ++ [0]).headD 1) bottom =
      terminal.setRegion (numbers.headD 1) bottom := by
  rw [setRegion, setRegion, first_concat_zero]

theorem filterMap_concat_zero {meaning : Nat → Option Switch} (unknown : meaning 0 = none) :
    (numbers ++ [0]).filterMap meaning = numbers.filterMap meaning := by
  rw [List.filterMap_append, List.filterMap_cons_none unknown, List.filterMap_nil, List.append_nil]

theorem privateCommands_concat_zero (final : Char) :
    privateCommands final (numbers ++ [0]) = privateCommands final numbers := by
  have unknown : Switch.ofPrivateMode? 0 = none := rfl
  simp only [privateCommands, filterMap_concat_zero numbers unknown]

theorem applyAll_standardCommands_concat_zero {final : Char} (no_rendition : final ≠ 'm') :
    terminal.applyAll (standardCommands final (numbers ++ [0])) =
      terminal.applyAll (standardCommands final numbers) := by
  have unknown : Switch.ofMode? 0 = none := rfl
  simp only [standardCommands, countOf_concat_zero, codeOf_concat_zero, bottomOf_concat_zero,
    filterMap_concat_zero numbers unknown]
  split
  -- Only places and regions tell a zero from nothing, and both mean the first line or column.
  case h_8 => exact setPosition_concat_zero numbers terminal
  case h_9 => exact setPosition_concat_zero numbers terminal
  case h_20 => exact setRegion_concat_zero numbers terminal _
  case h_21 => contradiction
  all_goals rfl

end OneMoreZero

/-! ## One more zero in a rendition -/

namespace Rendition

/-- What a zero changes. -/
def Expectation.zeroChange? : Expectation → Option Restyle
  | .code => some .plain
  | .selector _ => none
  | .index place => some (place (.hue .black))
  | .component _ => none

theorem Expectation.read_zero (expectation : Expectation) :
    (expectation.read 0).2 = expectation.zeroChange?.toList := by
  fun_cases zeroChange? expectation with
  | case4 more =>
      cases more with
      | zero => rfl
      | succ => rfl
  | _ => rfl

/-- What a zero after the numbers changes. -/
def zeroAfter? (numbers : List Nat) : Option Restyle :=
  (Expectation.code.readAll numbers).1.zeroChange?

theorem changes_concat_zero (numbers : List Nat) :
    changes (numbers ++ [0]) = changes numbers ++ (zeroAfter? numbers).toList := by
  rw [changes_eq_readAll, changes_eq_readAll, Expectation.readAll_append, zeroAfter?,
    ← Expectation.read_zero]
  simp [Expectation.readAll]

theorem restyled_eq_self_iff (terminal : Terminal) (change? : Option Restyle) :
    terminal.restyled change?.toList = terminal ↔
      ∀ change, change? = some change → change.apply terminal.style = terminal.style := by
  cases change? with
  | none => exact iff_of_true rfl fun _ absent => nomatch absent
  | some change =>
      constructor
      · intro same other other_eq
        cases other_eq
        exact congrArg style same
      · intro same
        change { terminal with style := change.apply terminal.style } = terminal
        rw [same change rfl]

theorem applyAll_commands_concat_zero (numbers : List Nat) (terminal : Terminal) :
    terminal.applyAll (commands (numbers ++ [0])) =
      (terminal.applyAll (commands numbers)).restyled (zeroAfter? numbers).toList := by
  cases numbers with
  | nil =>
      -- No numbers at all mean the default style already.
      simp [commands, changes_eq_readAll, Expectation.readAll, Expectation.read, introduced?, single?,
        zeroAfter?, Expectation.zeroChange?, restyled, apply, Restyle.apply]
  | cons first rest =>
      have longer_ne : first :: rest ++ [0] ≠ [] := List.cons_ne_nil _ _
      rw [applyAll_commands _ longer_ne, applyAll_commands _ (List.cons_ne_nil _ _),
        changes_concat_zero, restyled_append]

end Rendition

/-! ## Zeros in the gaps -/

/-- The piece, or a zero if there is nothing. -/
def explicitPiece (piece : List Char) : List Char :=
  if piece = [] then ['0'] else piece

/-- The numbers with a zero written for every one that is omitted. -/
def spelledOut (numbers : List Char) : List Char :=
  listed ((numbers.splitOn ';').map explicitPiece)

/-- Nothing is written for the last number. -/
def omitsLast (numbers : List Char) : Bool :=
  (numbers.splitOn ';').getLast? = some []

/-- Digits and semicolons are pieces of digits with semicolons between them. -/
theorem exists_listed {numbers : List Char}
    (plain : ∀ character ∈ numbers, character.isDigit = true ∨ character = ';') :
    ∃ pieces, pieces ≠ [] ∧ numbers = listed pieces ∧
      ∀ piece ∈ pieces, ∀ character ∈ piece, character.isDigit = true := by
  induction numbers with
  | nil => exact ⟨[[]], List.cons_ne_nil _ _, rfl, by simp⟩
  | cons character numbers induction =>
      obtain ⟨here, later⟩ := List.forall_mem_cons.mp plain
      obtain ⟨pieces, nonempty, rfl, digits⟩ := induction later
      rcases here with digit | rfl
      · obtain ⟨piece, more, rfl⟩ := List.exists_cons_of_ne_nil nonempty
        obtain ⟨first, others⟩ := List.forall_mem_cons.mp digits
        refine ⟨(character :: piece) :: more, List.cons_ne_nil _ _, ?_,
          List.forall_mem_cons.mpr ⟨List.forall_mem_cons.mpr ⟨digit, first⟩, others⟩⟩
        by_cases alone : more = []
        · simp [alone]
        · rw [listed_cons alone, listed_cons alone, List.cons_append]
      · refine ⟨[] :: pieces, List.cons_ne_nil _ _, ?_,
          List.forall_mem_cons.mpr ⟨List.forall_mem_nil _, digits⟩⟩
        rw [listed_cons nonempty, List.nil_append]

theorem number?_explicitPiece {piece : List Char}
    (digits : ∀ character ∈ piece, character.isDigit = true) :
    number? (explicitPiece piece) = some ((number? piece).getD 0) := by
  cases piece with
  | nil => rfl
  | cons first rest =>
      rw [explicitPiece, if_neg (List.cons_ne_nil _ _), number?,
        Numeral.value?_digits (List.cons_ne_nil _ _) digits]
      rfl

section Listed

variable {pieces : List (List Char)}
  (digits : ∀ piece ∈ pieces, ∀ character ∈ piece, character.isDigit = true)
include digits

theorem splitOn_listed (nonempty : pieces ≠ []) : (listed pieces).splitOn ';' = pieces := by
  refine List.splitOn_intercalate ';' (fun piece member semicolon => ?_) nonempty
  have digit := digits piece member ';' semicolon
  contradiction

theorem isDigit_of_mem_explicitPiece :
    ∀ piece ∈ pieces.map explicitPiece, ∀ character ∈ piece, character.isDigit = true := by
  intro piece member
  obtain ⟨original, original_mem, rfl⟩ := List.mem_map.mp member
  unfold explicitPiece
  split
  · simp
  · exact digits original original_mem

/-- Each piece has a number now; the last one is new if nothing was written for it. -/
theorem numbersOfPieces_explicit (nonempty : pieces ≠ []) :
    numbersOfPieces (pieces.map explicitPiece) =
      numbersOfPieces pieces ++ if pieces.getLast? = some [] then [0] else [] := by
  induction pieces with
  | nil => contradiction
  | cons piece pieces induction =>
      obtain ⟨here, later⟩ := List.forall_mem_cons.mp digits
      by_cases alone : pieces = []
      · rw [alone, List.map_singleton, numbersOfPieces, numbersOfPieces, number?_explicitPiece here,
          List.getLast?_singleton]
        cases piece with
        | nil => rfl
        | cons first rest =>
            rw [number?, Numeral.value?_digits (List.cons_ne_nil _ _) here]
            simp
      · have pieces_ne : pieces.map explicitPiece ≠ [] := mt List.map_eq_nil_iff.mp alone
        rw [List.map_cons, numbersOfPieces_cons pieces_ne, numbersOfPieces_cons alone,
          number?_explicitPiece here, induction later alone, List.getLast?_cons_of_ne_nil alone]
        rfl

end Listed

section Plain

variable {numbers : List Char}
  (plain : ∀ character ∈ numbers, character.isDigit = true ∨ character = ';')
include plain

theorem plain_of_mem_spelledOut :
    ∀ character ∈ spelledOut numbers, character.isDigit = true ∨ character = ';' := by
  obtain ⟨pieces, nonempty, rfl, digits⟩ := exists_listed plain
  rw [spelledOut, splitOn_listed digits nonempty]
  exact plain_of_mem_listed (isDigit_of_mem_explicitPiece digits)

/-- Spelling numbers out makes a difference only at the end. -/
theorem numbersOf_spelledOut :
    numbersOf (spelledOut numbers) =
      numbersOf numbers ++ if omitsLast numbers then [0] else [] := by
  obtain ⟨pieces, nonempty, rfl, digits⟩ := exists_listed plain
  rw [spelledOut, omitsLast, splitOn_listed digits nonempty,
    numbersOf_listed (isDigit_of_mem_explicitPiece digits) (mt List.map_eq_nil_iff.mp nonempty),
    numbersOf_listed digits nonempty, numbersOfPieces_explicit digits nonempty]
  simp only [decide_eq_true_eq]

end Plain

/-! ## Sequences with gaps -/

/-- A control sequence with numbers between semicolons, a private one or not. -/
def plainSequence (isPrivate : Bool) (numbers : List Char) (final : Char) : List Char :=
  escapeCharacter :: '[' :: (plainParameters isPrivate numbers ++ [final])

/-- The dialect of such a sequence. -/
def plainDialect (isPrivate : Bool) : Dialect :=
  if isPrivate then .privateUse else .standard

variable {numbers : List Char} {final : Char}

theorem feedAll_plainSequence (isPrivate : Bool)
    (plain : ∀ character ∈ numbers, character.isDigit = true ∨ character = ';')
    (ends : isFinal final = true) :
    feedAll .ground (plainSequence isPrivate numbers final) =
      (.ground, sequenceCommands (plainDialect isPrivate) final (numbersOf numbers)) := by
  have numeric := isNumeric_of_plain plain
  have not_colon := head?_ne_colon_of_plain plain
  rw [plainSequence, feedAll_opening]
  cases isPrivate with
  | false => exact feedAll_entry_final .standard numeric not_colon ends
  | true =>
      have marks : feed (.entry .standard) '?' = (.entry .privateUse, []) := by decide
      have rest := feedAll_entry_final .privateUse numeric not_colon ends
      exact (feedAll_cons_of_silent marks _).trans rest

namespace Console

variable {console : Console}

theorem display_plainSequence (ground : console.interpreter = .ground) (isPrivate : Bool)
    (plain : ∀ character ∈ numbers, character.isDigit = true ∨ character = ';')
    (ends : isFinal final = true) :
    console.display (plainSequence isPrivate numbers final) =
      ⟨.ground, console.terminal.applyAll
        (sequenceCommands (plainDialect isPrivate) final (numbersOf numbers))⟩ :=
  display_of_ground ground (feedAll_plainSequence isPrivate plain ends)

theorem display_rendition (ground : console.interpreter = .ground)
    (plain : ∀ character ∈ numbers, character.isDigit = true ∨ character = ';') :
    console.display (plainSequence false numbers 'm') =
      ⟨.ground, console.terminal.applyAll (commands (numbersOf numbers))⟩ := by
  have ends : isFinal 'm' = true := by decide
  exact display_plainSequence ground false plain ends

/--
A rendition sequence omits its last number, and the style in force after it is not the one that the zero
would have led to.
-/
structure LosesZero (console : Console) (isPrivate : Bool) (numbers : List Char) (final : Char) :
    Prop where
  /-- The sequence changes the style, -/
  rendition : final = 'm'
  /-- for it is not a private one. -/
  standard : isPrivate = false
  /-- Nothing is written for its last number. -/
  omits_last : omitsLast numbers = true
  /-- A zero there would change the style once more. -/
  shows : ∃ change, zeroAfter? (numbersOf numbers) = some change ∧
    change.apply (console.display (plainSequence isPrivate numbers final)).terminal.style ≠
      (console.display (plainSequence isPrivate numbers final)).terminal.style

/-- Apart from rendition sequences, no sequence tells one more zero from none. -/
theorem applyAll_sequenceCommands_concat_zero {isPrivate : Bool}
    (no_rendition : ¬ (final = 'm' ∧ isPrivate = false)) (numbers : List Nat) (terminal : Terminal) :
    terminal.applyAll (sequenceCommands (plainDialect isPrivate) final (numbers ++ [0])) =
      terminal.applyAll (sequenceCommands (plainDialect isPrivate) final numbers) := by
  cases isPrivate with
  | true => exact congrArg terminal.applyAll (privateCommands_concat_zero numbers final)
  | false =>
      have other : final ≠ 'm' := fun same => no_rendition ⟨same, rfl⟩
      exact applyAll_standardCommands_concat_zero numbers terminal other

/-- Where the last number is omitted, spelling it out carries out one more change, if a zero means one. -/
theorem rendition_spelledOut_iff (ground : console.interpreter = .ground)
    (plain : ∀ character ∈ numbers, character.isDigit = true ∨ character = ';')
    (omits : omitsLast numbers = true) :
    console.display (plainSequence false (spelledOut numbers) 'm') =
        console.display (plainSequence false numbers 'm') ↔
      ∀ change, zeroAfter? (numbersOf numbers) = some change →
        change.apply (console.display (plainSequence false numbers 'm')).terminal.style =
          (console.display (plainSequence false numbers 'm')).terminal.style := by
  have written := display_rendition ground plain
  have spelled := display_rendition ground (plain_of_mem_spelledOut plain)
  rw [numbersOf_spelledOut plain, omits, if_pos rfl] at spelled
  have added := applyAll_commands_concat_zero (numbersOf numbers) console.terminal
  rw [spelled, written, added, ← restyled_eq_self_iff]
  exact ⟨congrArg Console.terminal, congrArg (Console.mk _)⟩

/--
Writing a zero for every number that is omitted from a sequence makes no difference, whatever the sequence
means and wherever the gaps are, just when it is not a rendition sequence that loses the zero at its end.
-/
theorem omission_counts_as_zero_iff (idle : console.interpreter.isIdle = true) (isPrivate : Bool)
    (plain : ∀ character ∈ numbers, character.isDigit = true ∨ character = ';')
    (ends : isFinal final = true) :
    console.display (plainSequence isPrivate (spelledOut numbers) final) =
        console.display (plainSequence isPrivate numbers final) ↔
      ¬ console.LosesZero isPrivate numbers final := by
  have ground := isIdle_iff.mp idle
  have written := display_plainSequence ground isPrivate plain ends
  have spelled := display_plainSequence ground isPrivate (plain_of_mem_spelledOut plain) ends
  rw [numbersOf_spelledOut plain] at spelled
  cases omits : omitsLast numbers with
  | false =>
      rw [omits, if_neg Bool.false_ne_true, List.append_nil, ← written] at spelled
      refine iff_of_true spelled fun loses => ?_
      rw [loses.omits_last] at omits
      contradiction
  | true =>
      by_cases rendition : final = 'm' ∧ isPrivate = false
      · obtain ⟨rfl, rfl⟩ := rendition
        rw [rendition_spelledOut_iff ground plain omits]
        constructor
        · intro same loses
          obtain ⟨change, change_eq, differs⟩ := loses.shows
          exact differs (same change change_eq)
        · intro keeps change change_eq
          refine Decidable.byContradiction fun differs => keeps ?_
          exact ⟨rfl, rfl, omits, change, change_eq, differs⟩
      · rw [omits, if_pos rfl, applyAll_sequenceCommands_concat_zero rendition, ← written] at spelled
        exact iff_of_true spelled fun loses => rendition ⟨loses.rendition, loses.standard⟩

/-- A place with both its line and what follows its column omitted is the place with zeros there. -/
theorem omission_counts_as_zero_place :
    let console := Console.start ⟨8, 2⟩
    plainSequence false ";5;".toList 'H' = "\x1b[;5;H".toList ∧
      plainSequence false (spelledOut ";5;".toList) 'H' = "\x1b[0;5;0H".toList ∧
      console.display (plainSequence false (spelledOut ";5;".toList) 'H') =
        console.display (plainSequence false ";5;".toList 'H') := by
  intro console
  have plain : ∀ character ∈ ";5;".toList, character.isDigit = true ∨ character = ';' := by simp
  have idle : console.interpreter.isIdle = true := rfl
  have ends : isFinal 'H' = true := by decide
  have keeps : ¬ console.LosesZero false ";5;".toList 'H' := fun loses => nomatch loses.rendition
  exact ⟨rfl, by decide, (omission_counts_as_zero_iff idle false plain ends).mpr keeps⟩

/-- Bold with an omitted number after it stays bold, though with a zero written there it does not. -/
theorem omitted_last_number_lost :
    let console := Console.start ⟨2, 1⟩
    plainSequence false "1;".toList 'm' = "\x1b[1;m".toList ∧
      plainSequence false (spelledOut "1;".toList) 'm' = "\x1b[1;0m".toList ∧
      (console.display "\x1b[1;m".toList).terminal.style = { bold := true } ∧
      (console.display "\x1b[1;0m".toList).terminal.style = {} ∧
      console.display (plainSequence false (spelledOut "1;".toList) 'm') ≠
        console.display (plainSequence false "1;".toList 'm') := by
  intro console
  have ground : console.interpreter = .ground := rfl
  have written : plainSequence false "1;".toList 'm' = "\x1b[1;m".toList := rfl
  have spelled : plainSequence false (spelledOut "1;".toList) 'm' = "\x1b[1;0m".toList := by decide
  have bold : (console.display "\x1b[1;m".toList).terminal.style = { bold := true } := by
    have numbers_eq : numbersOf "1;".toList = [1] := rfl
    rw [← written, display_rendition ground (by simp), numbers_eq,
      applyAll_commands _ (List.cons_ne_nil _ _), changes_eq_readAll]
    rfl
  have plain : (console.display "\x1b[1;0m".toList).terminal.style = {} := by
    have numbers_eq : numbersOf (spelledOut "1;".toList) = [1, 0] := rfl
    rw [← spelled, display_rendition ground (plain_of_mem_spelledOut (by simp)), numbers_eq,
      applyAll_commands _ (List.cons_ne_nil _ _), changes_eq_readAll]
    rfl
  refine ⟨written, spelled, bold, plain, ?_⟩
  rw [written, spelled]
  intro same
  rw [same, bold] at plain
  contradiction

end Console

end RoguePilot.Terminal
