import Mathlib.Data.List.TakeWhile
import RoguePilot.Proofs.Terminal.Resynchronization

/-!
# Control sequences as a whole

A control sequence is an introducer, parameters, intermediate characters and a final character. It is
read as a whole if its parameters are well arranged: first come marks, then numbers, which begin with a
digit or a semicolon, and there is no less-than sign. At the first parameter character that is out of
place the sequence is given up, and everything after it is printed.
-/

namespace RoguePilot.Terminal

/-! ## Commands of a text -/

namespace Interpreter

/-- Reads a text: what is partly read at its end, and the commands to carry out. -/
def feedAll (interpreter : Interpreter) : List Char → Interpreter × List Command
  | [] => (interpreter, [])
  | character :: text =>
    let first := interpreter.feed character
    let later := first.1.feedAll text
    (later.1, first.2 ++ later.2)

@[simp] theorem feedAll_nil (interpreter : Interpreter) :
    interpreter.feedAll [] = (interpreter, []) := rfl

theorem feedAll_cons_of_silent {interpreter next : Interpreter} {character : Char}
    (silent : interpreter.feed character = (next, [])) (text : List Char) :
    interpreter.feedAll (character :: text) = next.feedAll text := by
  rw [feedAll, silent]
  rfl

theorem feedAll_append (interpreter : Interpreter) (first second : List Char) :
    interpreter.feedAll (first ++ second) =
      (((interpreter.feedAll first).1.feedAll second).1,
        (interpreter.feedAll first).2 ++ ((interpreter.feedAll first).1.feedAll second).2) := by
  induction first generalizing interpreter with
  | nil => rfl
  | cons character first induction =>
      rw [List.cons_append, feedAll, feedAll, induction, List.append_assoc]

theorem feedAll_append_of_silent {interpreter next : Interpreter} {first : List Char}
    (silent : interpreter.feedAll first = (next, [])) (second : List Char) :
    interpreter.feedAll (first ++ second) = next.feedAll second := by
  rw [feedAll_append, silent]
  rfl

end Interpreter

theorem Console.display_eq_feedAll (console : Console) (text : List Char) :
    console.display text =
      ⟨(console.interpreter.feedAll text).1,
        console.terminal.applyAll (console.interpreter.feedAll text).2⟩ := by
  induction text generalizing console with
  | nil => rfl
  | cons character text induction =>
      rw [display_cons, induction, Interpreter.feedAll, applyAll_append]
      rfl

/-! ## Marks -/

/-- The dialect that marks decide on. -/
def Dialect.ofMarks (marks : List Char) : Dialect :=
  if '?' ∈ marks then .privateUse
  else if marks.isEmpty then .standard
  else .unknown

theorem Dialect.ofMarks_concat (marks : List Char) (mark : Char) :
    ofMarks (marks ++ [mark]) = (ofMarks marks).mark mark := by
  unfold ofMarks Dialect.mark
  by_cases isPrivate : mark = '?'
  · simp [isPrivate]
  · by_cases seen : '?' ∈ marks
    · simp [seen, isPrivate]
    · cases marks <;> simp_all [eq_comm]

namespace Interpreter

/-! ## The characters of a sequence -/

/-- A parameter character of a control sequence. -/
def isParameter (character : Char) : Bool :=
  0x30 ≤ character.toNat && character.toNat ≤ 0x3F

/-- A character of numbers: a digit or a separator. -/
def isNumeric (character : Char) : Bool :=
  character.isDigit || character = ';' || character = ':'

/-- First come marks, then numbers, and the numbers do not begin with a colon. -/
def isArranged (parameters : List Char) : Bool :=
  let numbers := parameters.dropWhile isMark
  numbers.all isNumeric && numbers.head? ≠ some ':'

variable {character : Char}

theorem eq_iff_toNat_eq {other : Char} : character = other ↔ character.toNat = other.toNat :=
  Char.toNat_inj.symm

theorem isDigit_iff : character.isDigit = true ↔ 0x30 ≤ character.toNat ∧ character.toNat ≤ 0x39 := by
  simp [Char.isDigit, UInt32.le_iff_toNat_le]

theorem isMark_iff :
    isMark character = true ↔
      character.toNat = 0x21 ∨ (0x3D ≤ character.toNat ∧ character.toNat ≤ 0x3F) := by
  simp only [isMark, Bool.or_eq_true, decide_eq_true_eq, eq_iff_toNat_eq, Char.reduceToNat]
  omega

theorem isNumeric_iff :
    isNumeric character = true ↔ 0x30 ≤ character.toNat ∧ character.toNat ≤ 0x3B := by
  simp only [isNumeric, Bool.or_eq_true, decide_eq_true_eq, isDigit_iff, eq_iff_toNat_eq,
    Char.reduceToNat]
  omega

theorem digit?_eq_none (outside : ¬ (0x30 ≤ character.toNat ∧ character.toNat ≤ 0x39)) :
    digit? character = none :=
  if_neg (mt isDigit_iff.mp outside)

theorem feed_of_visible (interpreter : Interpreter)
    (visible : 0x20 ≤ character.toNat ∧ character.toNat ≤ 0x7E) :
    interpreter.feed character = interpreter.read character := by
  have printable : isC0 character = false := by simp [isC0]; omega
  have not_padding : character ≠ '\x7f' := by rw [ne_eq, eq_iff_toNat_eq]; simp; omega
  simp [feed, printable, not_padding]

/-! ## What is read of a sequence -/

/-- A control sequence is partly read, with the dialect and the numbers it has so far. -/
inductive Collects (dialect : Dialect) : List Nat → Interpreter → Prop where
  | entry : Collects dialect [] (.entry dialect)
  | parameters (complete : List Nat) (current : Option Nat) :
      Collects dialect (allParameters complete current) (.parameters dialect complete current)
  | intermediate (numbers : List Nat) : Collects dialect numbers (.intermediate dialect numbers)

variable {dialect : Dialect} {numbers : List Nat} {interpreter : Interpreter}

theorem Collects.isIdle_eq (collects : Collects dialect numbers interpreter) :
    interpreter.isIdle = false := by
  cases collects <;> rfl

theorem Collects.inString_eq (collects : Collects dialect numbers interpreter) :
    interpreter.inString = false := by
  cases collects <;> rfl

theorem Collects.feed_final (collects : Collects dialect numbers interpreter)
    (ends : isFinal character = true) :
    interpreter.feed character = (.ground, sequenceCommands dialect character numbers) := by
  have bounds : 0x40 ≤ character.toNat ∧ character.toNat ≤ 0x7E := by simpa [isFinal] using ends
  have not_digit : digit? character = none := digit?_eq_none (by omega)
  have not_semicolon : character ≠ ';' := by rintro rfl; contradiction
  have not_colon : character ≠ ':' := by rintro rfl; contradiction
  have not_mark : isMark character = false := Bool.eq_false_iff.mpr (mt isMark_iff.mp (by omega))
  have not_intermediate : isIntermediate character = false := by simp [isIntermediate]; omega
  rw [feed_of_visible _ (by omega)]
  cases collects with
  | entry => simp [read, afterEntry, not_digit, not_semicolon, not_mark, not_intermediate, ends]
  | parameters complete current =>
      simp [read, afterParameters, not_digit, not_semicolon, not_colon, not_intermediate, ends]
  | intermediate numbers => simp [read, afterIntermediate, not_intermediate, ends]

/-- An intermediate character is collected, and it decides on the dialect like a mark. -/
theorem Collects.feed_intermediate (collects : Collects dialect numbers interpreter)
    (collected : isIntermediate character = true) :
    ∃ next, interpreter.feed character = (next, []) ∧
      Collects (dialect.mark character) numbers next := by
  have bounds : 0x20 ≤ character.toNat ∧ character.toNat ≤ 0x2F := by
    simpa [isIntermediate] using collected
  have not_digit : digit? character = none := digit?_eq_none (by omega)
  have not_semicolon : character ≠ ';' := by rintro rfl; contradiction
  have not_colon : character ≠ ':' := by rintro rfl; contradiction
  rw [feed_of_visible _ (by omega)]
  cases collects with
  | entry =>
      -- The exclamation mark counts as a mark here and leaves the sequence where it is.
      cases mark : isMark character with
      | true => exact ⟨_, by simp [read, afterEntry, not_digit, not_semicolon, mark], .entry⟩
      | false =>
          refine ⟨_, ?_, .intermediate []⟩
          simp [read, afterEntry, not_digit, not_semicolon, mark, collected]
  | parameters complete current =>
      refine ⟨_, ?_, .intermediate _⟩
      simp [read, afterParameters, not_digit, not_semicolon, not_colon, collected]
  | intermediate numbers =>
      exact ⟨_, by simp [read, afterIntermediate, collected], .intermediate _⟩

theorem Collects.feedAll_intermediates {marks intermediates : List Char}
    (collects : Collects (.ofMarks marks) numbers interpreter)
    (collected : ∀ character ∈ intermediates, isIntermediate character = true) :
    ∃ next, interpreter.feedAll intermediates = (next, []) ∧
      Collects (.ofMarks (marks ++ intermediates)) numbers next := by
  induction intermediates generalizing interpreter marks with
  | nil =>
      rw [List.append_nil]
      exact ⟨interpreter, rfl, collects⟩
  | cons character intermediates induction =>
      obtain ⟨here, later⟩ := List.forall_mem_cons.mp collected
      obtain ⟨next, silent, still⟩ := collects.feed_intermediate here
      rw [← Dialect.ofMarks_concat] at still
      rw [feedAll_cons_of_silent silent, List.append_cons]
      exact induction still later

/-! ## Parameters -/

theorem feed_entry_mark (dialect : Dialect) (inside : isParameter character = true)
    (mark : isMark character = true) :
    feed (.entry dialect) character = (.entry (dialect.mark character), []) := by
  simp only [isParameter, Bool.and_eq_true, decide_eq_true_eq] at inside
  have not_digit : digit? character = none := by
    rw [isMark_iff] at mark
    exact digit?_eq_none (by omega)
  have not_semicolon : character ≠ ';' := by
    rintro rfl
    contradiction
  rw [feed_of_visible _ (by omega)]
  simp [read, afterEntry, not_digit, not_semicolon, mark]

theorem feed_entry_numeric (dialect : Dialect) (numeric : isNumeric character = true)
    (not_colon : character ≠ ':') :
    ∃ complete current,
      feed (.entry dialect) character = (.parameters dialect complete current, []) := by
  have bounds := isNumeric_iff.mp numeric
  rw [feed_of_visible _ (by omega)]
  simp only [read, afterEntry]
  cases digit : digit? character with
  | some value => exact ⟨[], some value, rfl⟩
  | none =>
      have semicolon : character = ';' := by
        have not_digit : character.isDigit = false := by simpa [digit?] using digit
        simpa [isNumeric, not_digit, not_colon] using numeric
      exact ⟨[0], none, if_pos semicolon⟩

theorem feed_entry_misplaced (dialect : Dialect) (inside : isParameter character = true)
    (not_mark : isMark character = false)
    (misplaced : isNumeric character = false ∨ character = ':') :
    feed (.entry dialect) character = (.ground, []) := by
  -- Of the parameter characters only these two are neither marks nor begin a number.
  have ends : character = ':' ∨ character = '<' := by
    simp only [isParameter, Bool.and_eq_true, decide_eq_true_eq] at inside
    rw [Bool.eq_false_iff, ne_eq, isMark_iff] at not_mark
    rw [Bool.eq_false_iff, ne_eq, isNumeric_iff] at misplaced
    simp only [eq_iff_toNat_eq, Char.reduceToNat] at misplaced ⊢
    omega
  rcases ends with rfl | rfl
  · rfl
  · rfl

theorem feed_parameters_numeric (dialect : Dialect) (complete : List Nat) (current : Option Nat)
    (numeric : isNumeric character = true) :
    ∃ longer next, feed (.parameters dialect complete current) character =
      (.parameters dialect longer next, []) := by
  have bounds := isNumeric_iff.mp numeric
  rw [feed_of_visible _ (by omega)]
  simp only [read, afterParameters]
  cases digit : digit? character with
  | some value => exact ⟨complete, _, rfl⟩
  | none =>
      have separates : (character = ';' || character = ':') = true := by
        have not_digit : character.isDigit = false := by simpa [digit?] using digit
        simpa [isNumeric, not_digit] using numeric
      exact ⟨_, none, if_pos separates⟩

theorem feed_parameters_misplaced (dialect : Dialect) (complete : List Nat) (current : Option Nat)
    (inside : isParameter character = true) (misplaced : isNumeric character = false) :
    feed (.parameters dialect complete current) character = (.ground, []) := by
  have ends : character = '<' ∨ character = '=' ∨ character = '>' ∨ character = '?' := by
    simp only [isParameter, Bool.and_eq_true, decide_eq_true_eq] at inside
    rw [Bool.eq_false_iff, ne_eq, isNumeric_iff] at misplaced
    simp only [eq_iff_toNat_eq, Char.reduceToNat]
    omega
  rcases ends with rfl | rfl | rfl | rfl
  all_goals rfl

/-- Arranged parameters, and what has been read once they are. -/
inductive Reads : List Char → Interpreter → Prop where
  /-- So far there are marks only. -/
  | marks {marks : List Char} (all : ∀ mark ∈ marks, isMark mark = true) :
      Reads marks (.entry (.ofMarks marks))
  /-- There are marks, and numbers after them. -/
  | numbers {marks : List Char} {first : Char} {rest : List Char}
      (all : ∀ mark ∈ marks, isMark mark = true) (not_colon : first ≠ ':')
      (numeric : ∀ character ∈ first :: rest, isNumeric character = true)
      (complete : List Nat) (current : Option Nat) :
      Reads (marks ++ first :: rest) (.parameters (.ofMarks marks) complete current)

theorem not_isMark_of_isNumeric (numeric : isNumeric character = true) :
    ¬ isMark character = true := by
  rw [isNumeric_iff] at numeric
  rw [isMark_iff]
  omega

section Numbers

variable {marks : List Char} {first : Char} (all : ∀ mark ∈ marks, isMark mark = true)
  (not_mark : ¬ isMark first = true) (rest : List Char)

include all not_mark

theorem takeWhile_isMark : (marks ++ first :: rest).takeWhile isMark = marks := by
  rw [List.takeWhile_append_of_pos all]
  simp [not_mark]

theorem isArranged_marks_append :
    isArranged (marks ++ first :: rest) = true ↔
      (∀ character ∈ first :: rest, isNumeric character = true) ∧ first ≠ ':' := by
  have dropped : (marks ++ first :: rest).dropWhile isMark = first :: rest := by
    rw [List.dropWhile_append_of_pos all]
    simp [not_mark]
  rw [isArranged, dropped, Bool.and_eq_true, List.all_eq_true]
  simp

end Numbers

variable {parameters : List Char}

theorem Reads.isArranged (reads : Reads parameters interpreter) : isArranged parameters = true := by
  cases reads with
  | marks all => simp [Interpreter.isArranged, List.dropWhile_eq_nil_iff.mpr all]
  | @numbers marks first rest all not_colon numeric complete current =>
      have not_mark := not_isMark_of_isNumeric (numeric first List.mem_cons_self)
      exact (isArranged_marks_append all not_mark rest).mpr ⟨numeric, not_colon⟩

theorem Reads.collects (reads : Reads parameters interpreter) :
    ∃ numbers, Collects (.ofMarks (parameters.takeWhile isMark)) numbers interpreter := by
  cases reads with
  | marks all =>
      rw [List.takeWhile_eq_self_iff.mpr all]
      exact ⟨[], .entry⟩
  | @numbers marks first rest all not_colon numeric complete current =>
      have not_mark := not_isMark_of_isNumeric (numeric first List.mem_cons_self)
      rw [takeWhile_isMark all not_mark rest]
      exact ⟨_, .parameters complete current⟩

theorem isArranged_of_append {more : List Char} (arranged : isArranged (parameters ++ more) = true) :
    isArranged parameters = true := by
  simp only [isArranged, List.dropWhile_append, Bool.and_eq_true] at arranged ⊢
  split at arranged
  · next empty => simp [List.isEmpty_iff.mp empty]
  · next some =>
    simp only [List.all_append, Bool.and_eq_true] at arranged
    refine ⟨arranged.1.1, ?_⟩
    cases numbers : parameters.dropWhile isMark with
    | nil => simp [numbers] at some
    | cons first rest => simpa [numbers] using arranged.2

/-- A parameter character is read on, unless it is out of place: then the sequence is given up. -/
theorem Reads.step (reads : Reads parameters interpreter) (inside : isParameter character = true) :
    (∃ next, interpreter.feed character = (next, []) ∧ Reads (parameters ++ [character]) next) ∨
      interpreter.feed character = (.ground, []) ∧
        Interpreter.isArranged (parameters ++ [character]) = false := by
  cases reads with
  | marks all =>
      cases mark : isMark character with
      | true =>
          refine .inl ⟨_, feed_entry_mark _ inside mark, ?_⟩
          rw [← Dialect.ofMarks_concat]
          exact .marks (List.forall_mem_append.mpr ⟨all, List.forall_mem_singleton.mpr mark⟩)
      | false =>
          have not_mark : ¬ isMark character = true := Bool.eq_false_iff.mp mark
          by_cases opens : isNumeric character = true ∧ character ≠ ':'
          · obtain ⟨complete, current, silent⟩ :=
              feed_entry_numeric (.ofMarks parameters) opens.1 opens.2
            exact .inl ⟨_, silent, .numbers all opens.2 (List.forall_mem_singleton.mpr opens.1) _ _⟩
          · have misplaced : isNumeric character = false ∨ character = ':' :=
              (Decidable.not_and_iff_or_not.mp opens).imp Bool.eq_false_iff.mpr Decidable.not_not.mp
            refine .inr ⟨feed_entry_misplaced _ inside mark misplaced, ?_⟩
            rw [Bool.eq_false_iff, ne_eq, isArranged_marks_append all not_mark]
            simpa using opens
  | @numbers marks first rest all not_colon numeric complete current =>
      have not_mark := not_isMark_of_isNumeric (numeric first List.mem_cons_self)
      rw [List.append_assoc, List.cons_append]
      cases goesOn : isNumeric character with
      | true =>
          obtain ⟨longer, next, silent⟩ :=
            feed_parameters_numeric (.ofMarks marks) complete current goesOn
          refine .inl ⟨_, silent, .numbers all not_colon ?_ longer next⟩
          rw [← List.cons_append]
          exact List.forall_mem_append.mpr ⟨numeric, List.forall_mem_singleton.mpr goesOn⟩
      | false =>
          refine .inr ⟨feed_parameters_misplaced _ complete current inside goesOn, ?_⟩
          rw [Bool.eq_false_iff, ne_eq, isArranged_marks_append all not_mark]
          rintro ⟨all_numeric, -⟩
          have stays := all_numeric character (by simp)
          rw [goesOn] at stays
          contradiction

/-- Parameters are read to their end if they are arranged, and else to the first one out of place. -/
theorem Reads.run (reads : Reads parameters interpreter) {more : List Char}
    (inside : ∀ character ∈ more, isParameter character = true) :
    (∃ next, interpreter.feedAll more = (next, []) ∧ Reads (parameters ++ more) next) ∨
      ∃ first stop rest, more = first ++ stop :: rest ∧
        Interpreter.isArranged (parameters ++ first) = true ∧
        Interpreter.isArranged (parameters ++ first ++ [stop]) = false ∧
        interpreter.feedAll (first ++ [stop]) = (.ground, []) := by
  induction more generalizing parameters interpreter with
  | nil =>
      rw [List.append_nil]
      exact .inl ⟨interpreter, rfl, reads⟩
  | cons character more induction =>
      obtain ⟨here, later⟩ := List.forall_mem_cons.mp inside
      rcases reads.step here with ⟨next, silent, still⟩ | ⟨stops, misplaced⟩
      · rcases induction still later with
          ⟨last, quiet, whole⟩ | ⟨first, stop, rest, rfl, arranged, misplaced, stops⟩
        · rw [feedAll_cons_of_silent silent, List.append_cons]
          exact .inl ⟨last, quiet, whole⟩
        · rw [← List.append_cons] at arranged misplaced
          refine .inr ⟨character :: first, stop, rest, rfl, arranged, misplaced, ?_⟩
          rw [List.cons_append, feedAll_cons_of_silent silent]
          exact stops
      · refine .inr ⟨[], character, more, rfl, ?_, ?_, ?_⟩
        · rw [List.append_nil]
          exact reads.isArranged
        · rw [List.append_nil]
          exact misplaced
        · exact feedAll_cons_of_silent stops []

theorem feedAll_ground {text : List Char}
    (visible : ∀ character ∈ text, 0x20 ≤ character.toNat ∧ character.toNat ≤ 0x7E) :
    feedAll .ground text = (.ground, text.map .print) := by
  induction text with
  | nil => rfl
  | cons character text induction =>
      obtain ⟨here, later⟩ := List.forall_mem_cons.mp visible
      have not_control : isC1 character = false := by simp [isC1]; omega
      have prints : feed .ground character = (.ground, [.print character]) := by
        rw [feed_of_visible _ here]
        simp [read, not_control]
      rw [feedAll, prints]
      simp [induction later]

/-- A control sequence before its final character. -/
def opening (parameters intermediates : List Char) : List Char :=
  escapeCharacter :: '[' :: (parameters ++ intermediates)

theorem feedAll_opening (text : List Char) :
    feedAll .ground (escapeCharacter :: '[' :: text) = feedAll (.entry (.ofMarks [])) text := by
  have begins : feed .ground escapeCharacter = (.escape, []) := by decide
  have introduces : feed .escape '[' = (.entry (.ofMarks []), []) := by decide
  rw [feedAll_cons_of_silent begins, feedAll_cons_of_silent introduces]

theorem feedAll_opening_arranged {parameters intermediates : List Char}
    (inside : ∀ character ∈ parameters, isParameter character = true)
    (collected : ∀ character ∈ intermediates, isIntermediate character = true)
    (arranged : isArranged parameters = true) :
    ∃ numbers next, feedAll .ground (opening parameters intermediates) = (next, []) ∧
      Collects (.ofMarks (parameters.takeWhile isMark ++ intermediates)) numbers next := by
  have begins : Reads [] (.entry (.ofMarks [])) := .marks (List.forall_mem_nil _)
  rcases begins.run inside with ⟨next, silent, reads⟩ | ⟨first, stop, rest, rfl, -, misplaced, -⟩
  -- The parameters alone decide on whether the sequence goes on; intermediate characters never end it.
  · obtain ⟨numbers, collects⟩ := reads.collects
    obtain ⟨last, quiet, still⟩ := collects.feedAll_intermediates collected
    refine ⟨numbers, last, ?_, still⟩
    rw [opening, feedAll_opening, feedAll_append_of_silent silent]
    exact quiet
  · rw [List.append_cons] at arranged
    rw [List.nil_append, isArranged_of_append arranged] at misplaced
    contradiction

theorem feedAll_opening_misplaced {parameters : List Char}
    (inside : ∀ character ∈ parameters, isParameter character = true)
    (misplaced : isArranged parameters = false) :
    ∃ first stop rest, parameters = first ++ stop :: rest ∧ isArranged first = true ∧
      isArranged (first ++ [stop]) = false ∧
      ∀ text, feedAll .ground (escapeCharacter :: '[' :: (parameters ++ text)) =
        feedAll .ground (rest ++ text) := by
  have begins : Reads [] (.entry (.ofMarks [])) := .marks (List.forall_mem_nil _)
  rcases begins.run inside with ⟨next, -, reads⟩ | ⟨first, stop, rest, rfl, arranged, ends, stops⟩
  · rw [List.nil_append] at reads
    rw [reads.isArranged] at misplaced
    contradiction
  · refine ⟨first, stop, rest, rfl, arranged, ends, fun text => ?_⟩
    rw [feedAll_opening, List.append_cons, List.append_assoc, feedAll_append_of_silent stops]

end Interpreter

open Interpreter

/-! ## Sequences that are known -/

/-- The final characters that mean something in a dialect. -/
def Dialect.finals : Dialect → List Char
  | .standard =>
    ['A', 'B', 'C', 'D', 'E', 'F', 'G', 'H', 'f', 'd', 'J', 'K', 'L', 'M', '@', 'P', 'X', 'S', 'T',
      'r', 'm', 's', 'u', 'h', 'l']
  | .privateUse => ['h', 'l']
  | .unknown => []

theorem sequenceCommands_of_not_known {dialect : Dialect} {final : Char} (numbers : List Nat)
    (unknown : final ∉ dialect.finals) : sequenceCommands dialect final numbers = [] := by
  cases dialect with
  | standard =>
      change standardCommands final numbers = []
      fun_cases standardCommands final numbers
      all_goals first
        | rfl
        | exact absurd unknown (by decide)
  | privateUse =>
      change privateCommands final numbers = []
      fun_cases privateCommands final numbers
      all_goals first
        | rfl
        | exact absurd unknown (by decide)
  | unknown => rfl

theorem Rendition.print_notMem_commands (glyph : Char) (codes : List Nat) :
    Command.print glyph ∉ commands codes := by
  unfold commands
  split <;> simp

/-- No control sequence prints anything. -/
theorem print_notMem_sequenceCommands (glyph : Char) (dialect : Dialect) (final : Char)
    (numbers : List Nat) : Command.print glyph ∉ sequenceCommands dialect final numbers := by
  cases dialect with
  | standard =>
      change _ ∉ standardCommands final numbers
      fun_cases standardCommands final numbers
      all_goals simp [Rendition.print_notMem_commands]
  | privateUse =>
      change _ ∉ privateCommands final numbers
      fun_cases privateCommands final numbers
      all_goals simp
  | unknown => exact List.not_mem_nil

/-! ## Whole sequences -/

/--
A control sequence is read as a whole: nothing happens before its final character, which ends it and
does what the sequence means in its dialect. Nothing is printed, and a sequence that is not known does
nothing.
-/
structure Console.ReadsWhole (console : Console) (parameters intermediates : List Char)
    (final : Char) : Prop where
  /-- Until its final character the sequence is partly read. -/
  waits : ∀ first, first <+: opening parameters intermediates → first ≠ [] →
    (console.display first).interpreter.isIdle = false ∧
      (console.display first).terminal = console.terminal
  /-- The final character ends it. -/
  acts : ∃ dialect numbers commands,
    dialect = Dialect.ofMarks (parameters.takeWhile isMark ++ intermediates) ∧
      commands = sequenceCommands dialect final numbers ∧
      (∀ glyph, Command.print glyph ∉ commands) ∧ (final ∉ dialect.finals → commands = []) ∧
      console.display (opening parameters intermediates ++ [final]) =
        ⟨.ground, console.terminal.applyAll commands⟩

variable {console : Console} {parameters intermediates : List Char} {final : Char}

/-- What an opening begins with is an opening itself, but for its introducer. -/
theorem eq_opening_of_isPrefix {first : List Char}
    (isPrefix : first <+: opening parameters intermediates) :
    first = [] ∨ first = [escapeCharacter] ∨ ∃ count,
      first = opening (parameters.take count) (intermediates.take (count - parameters.length)) := by
  rcases List.prefix_cons_iff.mp isPrefix with rfl | ⟨rest, rfl, after_escape⟩
  · exact .inl rfl
  · rcases List.prefix_cons_iff.mp after_escape with rfl | ⟨text, rfl, after_introducer⟩
    · exact .inr (.inl rfl)
    · refine .inr (.inr ⟨text.length, ?_⟩)
      rw [opening, ← List.take_append, ← List.prefix_iff_eq_take.mp after_introducer]

/-- Once it has begun, an arranged sequence is partly read until its final character. -/
theorem feedAll_of_isPrefix_opening
    (inside : ∀ character ∈ parameters, isParameter character = true)
    (collected : ∀ character ∈ intermediates, isIntermediate character = true)
    (arranged : isArranged parameters = true) {first : List Char}
    (isPrefix : first <+: opening parameters intermediates) :
    first = [] ∨ ∃ next, feedAll .ground first = (next, []) ∧
      next.isIdle = false ∧ next.inString = false := by
  rcases eq_opening_of_isPrefix isPrefix with rfl | rfl | ⟨count, rfl⟩
  · exact .inl rfl
  · exact .inr ⟨.escape, by decide, rfl, rfl⟩
  · rw [← List.take_append_drop count parameters] at arranged
    obtain ⟨numbers, next, silent, collects⟩ := feedAll_opening_arranged
      (fun character member => inside character (List.mem_of_mem_take member))
      (fun character member => collected character
        (List.mem_of_mem_take (i := count - parameters.length) member))
      (isArranged_of_append arranged)
    exact .inr ⟨next, silent, collects.isIdle_eq, collects.inString_eq⟩

namespace Console

theorem display_of_ground (ground : console.interpreter = .ground) {text : List Char}
    {next : Interpreter} {commands : List Command} (reads : feedAll .ground text = (next, commands)) :
    console.display text = ⟨next, console.terminal.applyAll commands⟩ := by
  rw [display_eq_feedAll, ground, reads]

theorem readsWhole_of_arranged (ground : console.interpreter = .ground)
    (inside : ∀ character ∈ parameters, isParameter character = true)
    (collected : ∀ character ∈ intermediates, isIntermediate character = true)
    (ends : isFinal final = true) (arranged : isArranged parameters = true) :
    console.ReadsWhole parameters intermediates final where
  waits := by
    intro first isPrefix some
    obtain ⟨next, silent, not_idle, -⟩ :=
      (feedAll_of_isPrefix_opening inside collected arranged isPrefix).resolve_left some
    rw [display_of_ground ground silent]
    exact ⟨not_idle, rfl⟩
  acts := by
    obtain ⟨numbers, next, silent, collects⟩ :=
      feedAll_opening_arranged inside collected arranged
    refine ⟨_, numbers, _, rfl, rfl, ?_, sequenceCommands_of_not_known numbers, ?_⟩
    · exact fun glyph => print_notMem_sequenceCommands glyph _ final numbers
    · refine display_of_ground ground ?_
      rw [feedAll_append_of_silent silent, feedAll, collects.feed_final ends]
      simp

/-- Once the sequence is given up, the rest of it is printed. -/
theorem display_of_misplaced (ground : console.interpreter = .ground)
    (inside : ∀ character ∈ parameters, isParameter character = true)
    (misplaced : isArranged parameters = false) :
    ∃ first stop rest, parameters = first ++ stop :: rest ∧ isArranged first = true ∧
      isArranged (first ++ [stop]) = false ∧ ∀ text : List Char,
        (∀ character ∈ text, 0x20 ≤ character.toNat ∧ character.toNat ≤ 0x7E) →
          console.display (escapeCharacter :: '[' :: (parameters ++ text)) =
            ⟨.ground, console.terminal.applyAll ((rest ++ text).map .print)⟩ := by
  obtain ⟨first, stop, rest, rfl, arranged, ends, reads⟩ :=
    feedAll_opening_misplaced inside misplaced
  refine ⟨first, stop, rest, rfl, arranged, ends, fun text visible => ?_⟩
  refine display_of_ground ground ((reads text).trans (feedAll_ground ?_))
  refine List.forall_mem_append.mpr ⟨fun character member => ?_, visible⟩
  have parameter := inside character (List.mem_append_right _ (List.mem_cons_of_mem _ member))
  simp only [isParameter, Bool.and_eq_true, decide_eq_true_eq] at parameter
  omega

/--
A control sequence with any parameter characters, any intermediate characters and a final character is
read as a whole by an idle console just when its parameters are arranged. Otherwise it is given up at the
first character that is out of place, and everything after this, the final character included, is
printed.
-/
theorem readsWhole_iff_isArranged (idle : console.interpreter.isIdle = true)
    (inside : ∀ character ∈ parameters, isParameter character = true)
    (collected : ∀ character ∈ intermediates, isIntermediate character = true)
    (ends : isFinal final = true) :
    (console.ReadsWhole parameters intermediates final ↔ isArranged parameters = true) ∧
      (isArranged parameters = false →
        ∃ first stop rest, parameters = first ++ stop :: rest ∧ isArranged first = true ∧
          isArranged (first ++ [stop]) = false ∧
          console.display (opening parameters intermediates ++ [final]) =
            ⟨.ground, console.terminal.applyAll ((rest ++ intermediates ++ [final]).map .print)⟩) := by
  have ground : console.interpreter = .ground := by simpa [isIdle] using idle
  have visible : ∀ character ∈ intermediates, 0x20 ≤ character.toNat ∧ character.toNat ≤ 0x7E := by
    intro character member
    have intermediate := collected character member
    simp only [isIntermediate, Bool.and_eq_true, decide_eq_true_eq] at intermediate
    omega
  refine ⟨⟨fun whole => ?_, readsWhole_of_arranged ground inside collected ends⟩, fun misplaced => ?_⟩
  · refine Bool.of_not_eq_false fun misplaced => ?_
    obtain ⟨first, stop, rest, rfl, -, -, displays⟩ := display_of_misplaced ground inside misplaced
    -- The sequence was given up before its final character.
    have waits := (whole.waits _ List.prefix_rfl (List.cons_ne_nil _ _)).1
    rw [opening, displays intermediates visible] at waits
    contradiction
  · obtain ⟨first, stop, rest, rfl, arranged, stops, displays⟩ :=
      display_of_misplaced ground inside misplaced
    refine ⟨first, stop, rest, rfl, arranged, stops, ?_⟩
    have final_visible : 0x20 ≤ final.toNat ∧ final.toNat ≤ 0x7E := by
      simp only [isFinal, Bool.and_eq_true, decide_eq_true_eq] at ends
      omega
    have displayed := displays (intermediates ++ [final])
      (List.forall_mem_append.mpr ⟨visible, List.forall_mem_singleton.mpr final_visible⟩)
    simpa [opening] using displayed

/-- A question for the kind of the terminal is not known, but read as a whole. -/
theorem readsWhole_device_question :
    (Console.start ⟨2, 1⟩).ReadsWhole ">0;".toList [] 'c' ∧
      (Console.start ⟨2, 1⟩).display "\x1b[>0;c".toList = Console.start ⟨2, 1⟩ := by
  have inside : ∀ character ∈ ">0;".toList, isParameter character = true :=
    List.all_eq_true.mp (by decide)
  have whole : (Console.start ⟨2, 1⟩).ReadsWhole ">0;".toList [] 'c' :=
    (readsWhole_iff_isArranged (by decide) inside (List.forall_mem_nil _) (by decide)).1.mpr
      (by decide)
  exact ⟨whole, by decide⟩

/-- A less-than sign is out of place in a sequence: its final character is printed. -/
theorem less_than_sign_given_up :
    ((Console.start ⟨2, 1⟩).display "\x1b[<".toList).interpreter.isIdle = true ∧
      ((Console.start ⟨2, 1⟩).display "\x1b[<m".toList).terminal.screen.cell? .home =
        some ⟨'m', {}⟩ ∧
      ¬ (Console.start ⟨2, 1⟩).ReadsWhole ['<'] [] 'm' := by
  refine ⟨by decide, by decide, fun whole => ?_⟩
  have waits := (whole.waits (opening ['<'] []) List.prefix_rfl (List.cons_ne_nil _ _)).1
  revert waits
  decide

end Console

end RoguePilot.Terminal
