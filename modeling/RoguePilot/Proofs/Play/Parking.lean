import RoguePilot.Play.Frame
import RoguePilot.Proofs.Terminal.Buffered
import RoguePilot.Proofs.Terminal.Parameters
import RoguePilot.Proofs.Terminal.Run

/-!
# Parking the cursor

The final character of a control sequence acts on the numbers as they are written, whatever earlier
sequences have left in the buffers. So the sequence a redraw ends with takes the cursor to the very place
whose line and column are written in it.
-/

namespace RoguePilot.Terminal

open Interpreter

/-- The parameters of a standard sequence are collected as numbers, and the final character acts on them. -/
structure Buffered.ActsOn (buffered : Buffered) (parameters : List Char) (numbers : List Nat) :
    Prop where
  /-- Before the final character the numbers are in the buffers, the last one perhaps apart. -/
  collects :
    (buffered.feedAll (escapeCharacter :: '[' :: parameters)).1.finish.numbers = numbers
  /-- The final character does with them what the sequence means. -/
  acts (final : Char) (ends : isFinal final = true) :
    (buffered.feedAll (escapeCharacter :: '[' :: (parameters ++ [final]))).2 =
      standardCommands final numbers
  /-- It ends the sequence. -/
  stops (final : Char) (ends : isFinal final = true) :
    (buffered.feedAll (escapeCharacter :: '[' :: (parameters ++ [final]))).1.isIdle = true

/-- A standard sequence with the parameters acts on the numbers, and nothing is partly read then. -/
def Console.ActsOn (console : Console) (parameters : List Char) (numbers : List Nat) : Prop :=
  ∀ final, isFinal final = true →
    console.display (escapeCharacter :: '[' :: (parameters ++ [final])) =
      ⟨.ground, console.terminal.applyAll (standardCommands final numbers)⟩

variable {buffered : Buffered} {console : Console} {parameters : List Char}

/-- Nothing that is left over in the buffers comes between the numbers. -/
theorem Buffered.actsOn_numbersOf (idle : buffered.isIdle = true)
    (numeric : ∀ character ∈ parameters, isNumeric character = true)
    (not_colon : parameters.head? ≠ some ':') : buffered.ActsOn parameters (numbersOf parameters) := by
  have ground := Buffered.holds_ground idle
  constructor
  · obtain ⟨next, silent, collects⟩ := feedAll_entry (.ofMarks []) numeric not_colon
    have agrees := ground.feedAll (escapeCharacter :: '[' :: parameters)
    rw [feedAll_opening, silent] at agrees
    exact agrees.holds.finish_numbers_eq collects
  · intro final ends
    rw [(ground.feedAll _).commands_eq, feedAll_standard numeric not_colon ends]
  · intro final ends
    rw [(ground.feedAll _).holds.isIdle_eq, feedAll_standard numeric not_colon ends]
    rfl

theorem Console.actsOn_numbersOf (idle : console.interpreter.isIdle = true)
    (numeric : ∀ character ∈ parameters, isNumeric character = true)
    (not_colon : parameters.head? ≠ some ':') : console.ActsOn parameters (numbersOf parameters) := by
  intro final ends
  exact Console.display_of_ground (isIdle_iff.mp idle) (feedAll_standard numeric not_colon ends)

/-! ## Places -/

variable {place : Position}

/-- The place as it is written: two numerals with a semicolon between them. -/
def placeParameters (place : Position) : List Char :=
  Numeral.decimal (place.row + 1) ++ ';' :: Numeral.decimal (place.column + 1)

theorem parkSequence_eq (place : Position) :
    Episode.parkSequence place =
      escapeCharacter :: '[' :: (placeParameters place ++ ['H']) := rfl

/-- A place of a screen with sides of sixteen bits is not cut when it is read. -/
theorem numbersOf_placeParameters {size : Size} (fits : Guarded.FitsWords size)
    (inside : size.Contains place) :
    numbersOf (placeParameters place) = [place.row + 1, place.column + 1] := by
  have row_le : place.row + 1 ≤ greatestParameter := Nat.le_trans inside.row_lt fits.rows_le
  have column_le : place.column + 1 ≤ greatestParameter :=
    Nat.le_trans inside.column_lt fits.columns_le
  rw [placeParameters, numbersOf_pair, Nat.min_eq_right row_le, Nat.min_eq_right column_le]

/--
Nothing being partly read, a standard sequence acts on the numbers that are written in it, whatever is left
over in the buffers. The sequence for a place of the screen takes the cursor there, forgets a pending wrap
and changes nothing else.
-/
theorem parameters_read_as_written (idle : console.interpreter.isIdle = true)
    (leftover : buffered.isIdle = true) :
    (∀ parameters : List Char, (∀ character ∈ parameters, isNumeric character = true) →
      parameters.head? ≠ some ':' →
        buffered.ActsOn parameters (numbersOf parameters) ∧
        console.ActsOn parameters (numbersOf parameters)) ∧
    ∀ place : Position, Guarded.FitsWords console.terminal.size →
      console.terminal.size.Contains place →
        (buffered.feedAll (Episode.parkSequence place)).2 =
          [.setPosition (place.row + 1) (place.column + 1)] ∧
        console.display (Episode.parkSequence place) =
          ⟨.ground,
            { console.terminal with
              cursor := { console.terminal.cursor with position := place, wrapPending := false } }⟩ := by
  constructor
  · intro parameters numeric not_colon
    exact ⟨Buffered.actsOn_numbersOf leftover numeric not_colon,
      Console.actsOn_numbersOf idle numeric not_colon⟩
  · intro place fits inside
    have numeric : ∀ character ∈ placeParameters place, isNumeric character = true :=
      isNumeric_of_mem_pair _ _
    have not_colon : (placeParameters place).head? ≠ some ':' := head?_pair_ne_colon _ _
    have ends : isFinal 'H' = true := by decide
    have acts := (Buffered.actsOn_numbersOf leftover numeric not_colon).acts 'H' ends
    have displays := Console.actsOn_numbersOf idle numeric not_colon 'H' ends
    rw [numbersOf_placeParameters fits inside] at acts displays
    have placed : console.terminal.setPosition (place.row + 1) (place.column + 1) =
        { console.terminal with
          cursor := { console.terminal.cursor with position := place, wrapPending := false } } :=
      moveTo_of_contains inside
    rw [parkSequence_eq, ← placed]
    exact ⟨acts, displays⟩

/-- Numbers left over from a sequence that was given up do not count, and an omitted one counts as zero. -/
theorem parameters_read_as_written_leftover :
    let buffered : Buffered := ⟨.ground, [3, 4], ['?'], some 5⟩
    let console := Console.start ⟨4, 3⟩
    buffered.ActsOn "12;:70000;".toList [12, 0, 65535] ∧
      console.ActsOn "12;:70000;".toList [12, 0, 65535] ∧
      console.display "\x1b[3;4H".toList =
        ⟨.ground, { console.terminal with cursor := { position := ⟨2, 3⟩ } }⟩ := by
  intro buffered console
  have numeric : ∀ character ∈ "12;:70000;".toList, isNumeric character = true :=
    List.all_eq_true.mp (by decide)
  have numbers_eq : numbersOf "12;:70000;".toList = [12, 0, 65535] := by decide
  have idle : console.interpreter.isIdle = true := rfl
  have leftover : buffered.isIdle = true := rfl
  have read := parameters_read_as_written idle leftover
  have acts := read.1 "12;:70000;".toList numeric (by decide)
  have fits : Guarded.FitsWords console.terminal.size := ⟨by decide, by decide⟩
  have inside : console.terminal.size.Contains ⟨2, 3⟩ := ⟨by decide, by decide⟩
  rw [numbers_eq] at acts
  exact ⟨acts.1, acts.2, (read.2 ⟨2, 3⟩ fits inside).2⟩

end RoguePilot.Terminal
