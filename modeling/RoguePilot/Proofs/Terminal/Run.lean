import RoguePilot.Proofs.Terminal.Safety

/-!
# Runs of a console

A console is driven in two ways: its terminal is told what to do, and it is sent text to interpret.
However the two are interleaved, every bound a machine would check is kept and the terminal stays
well-formed at its first extent.
-/

namespace RoguePilot.Terminal

namespace Console

/--
One thing done to a console. Erasing or switching by a number that means nothing is no command,
since it changes nothing.
-/
inductive Input where
  /-- The terminal is told what to do. -/
  | command (command : Command)
  /-- Text arrives, which may begin and end within a sequence. -/
  | text (characters : List Char)
deriving DecidableEq, Repr

/-- The console after one input. -/
def take (console : Console) : Input → Console
  | .command command => { console with terminal := console.terminal.apply command }
  | .text characters => console.display characters

/-- The console after inputs taken in order. -/
def takeAll (console : Console) (inputs : List Input) : Console :=
  inputs.foldl take console

end Console

namespace Guarded

/-- Takes one input. -/
def take (console : Console) : Console.Input → Guarded Console
  | .command command => do
    return { console with terminal := ← apply console.terminal command }
  | .text characters => display console characters

/-- Takes inputs in order. -/
def takeAll (console : Console) : List Console.Input → Guarded Console
  | [] => .ok console
  | input :: inputs => do takeAll (← take console input) inputs

/-- Switches a console on and takes inputs in order. -/
def run (size : Size) (inputs : List Console.Input) : Guarded Console := do
  takeAll ⟨.ground, ← start size⟩ inputs

end Guarded

namespace Console

/-- The terminal of the console is well-formed and has the given extent. -/
structure Keeps (size : Size) (console : Console) : Prop where
  /-- Its terminal is well-formed. -/
  wellFormed : console.terminal.WellFormed
  /-- Its terminal has the extent. -/
  size_eq : console.terminal.size = size

namespace Keeps

variable {size : Size} {console : Console}

theorem start (size : Size) : Keeps size.atLeastOne (Console.start size) where
  wellFormed := start_wellFormed size
  size_eq := rfl

theorem feed (keeps : Keeps size console) (character : Char) :
    Keeps size (console.feed character) := by
  have after := keeps.wellFormed.applyAll (console.interpreter.feed character).2
  exact ⟨after.1, after.2.trans keeps.size_eq⟩

theorem display (keeps : Keeps size console) (text : List Char) :
    Keeps size (console.display text) := by
  induction text generalizing console with
  | nil => exact keeps
  | cons character text induction => exact induction (keeps.feed character)

theorem take (keeps : Keeps size console) (input : Input) : Keeps size (console.take input) := by
  cases input with
  | command command =>
      exact
        ⟨keeps.wellFormed.apply command,
          (keeps.wellFormed.size_apply command).trans keeps.size_eq⟩
  | text characters => exact keeps.display characters

theorem takeAll (keeps : Keeps size console) (inputs : List Input) :
    Keeps size (console.takeAll inputs) := by
  induction inputs generalizing console with
  | nil => exact keeps
  | cons input inputs induction => exact induction (keeps.take input)

end Keeps

end Console

namespace Guarded

variable {size : Size} {console : Console}

theorem feed_eq_ok (keeps : console.Keeps size) (fitsWords : FitsWords size) (character : Char) :
    feed console character = .ok (console.feed character) := by
  have fits : FitsWords console.terminal.size := keeps.size_eq ▸ fitsWords
  rw [feed, interpret_eq_ok, ok_bind, applyAll_eq_ok keeps.wellFormed fits, ok_bind, pure_eq_ok]
  rfl

theorem display_eq_ok (keeps : console.Keeps size) (fitsWords : FitsWords size)
    (text : List Char) : display console text = .ok (console.display text) := by
  induction text generalizing console with
  | nil => rfl
  | cons character text induction =>
      rw [display, feed_eq_ok keeps fitsWords, ok_bind]
      exact induction (keeps.feed character)

theorem take_eq_ok (keeps : console.Keeps size) (fitsWords : FitsWords size)
    (input : Console.Input) : take console input = .ok (console.take input) := by
  have fits : FitsWords console.terminal.size := keeps.size_eq ▸ fitsWords
  cases input with
  | command command =>
      rw [take, apply_eq_ok keeps.wellFormed fits, ok_bind, pure_eq_ok]
      rfl
  | text characters => exact display_eq_ok keeps fitsWords characters

theorem takeAll_eq_ok (keeps : console.Keeps size) (fitsWords : FitsWords size)
    (inputs : List Console.Input) :
    takeAll console inputs = .ok (console.takeAll inputs) := by
  induction inputs generalizing console with
  | nil => rfl
  | cons input inputs induction =>
      rw [takeAll, take_eq_ok keeps fitsWords, ok_bind]
      exact induction (keeps.take input)

theorem run_eq_ok (fitsWords : FitsWords size.atLeastOne) (inputs : List Console.Input) :
    run size inputs = .ok ((Console.start size).takeAll inputs) := by
  rw [run, start_eq_ok, ok_bind]
  exact takeAll_eq_ok (Console.Keeps.start size) fitsWords inputs

/-- Sides below two to the sixteenth fit, and so does a side corrected to one. -/
theorem fitsWords_words (columns rows : UInt16) :
    FitsWords (Size.atLeastOne ⟨columns.toNat, rows.toNat⟩) := by
  have columns_lt := columns.toNat_lt
  have rows_lt := rows.toNat_lt
  constructor
  · simp only [Size.atLeastOne, greatestWord]
    omega
  · simp only [Size.atLeastOne, greatestWord]
    omega

end Guarded

/--
However a console is driven from the start on, at any extent of sixteen bits, no bound is broken on
the way, and the console it ends with is the one the unguarded run ends with: its terminal is
well-formed, has the extent it was switched on with, no side below one, and shows no control
character.
-/
theorem Guarded.run_safe (columns rows : UInt16) (inputs : List Console.Input) :
    ∃ console : Console,
      Guarded.run ⟨columns.toNat, rows.toNat⟩ inputs = .ok console ∧
        console = (Console.start ⟨columns.toNat, rows.toNat⟩).takeAll inputs ∧
        console.terminal.WellFormed ∧
        console.terminal.size = Size.atLeastOne ⟨columns.toNat, rows.toNat⟩ ∧
        ∀ row ∈ console.terminal.screen.lines, ∀ cell ∈ row,
          Text.isControl cell.glyph = false := by
  have keeps := (Console.Keeps.start ⟨columns.toNat, rows.toNat⟩).takeAll inputs
  refine
    ⟨_, run_eq_ok (fitsWords_words columns rows) inputs, rfl, keeps.wellFormed, keeps.size_eq, ?_⟩
  intro row row_member cell cell_member
  have takes := (keeps.wellFormed.filled.fits row row_member).drawable cell cell_member
  simp only [Text.takesCell, Bool.and_eq_true, Bool.not_eq_true'] at takes
  exact takes.1

/-! ## What is reached -/

/-- The terminal of a console that was switched on at an extent of sixteen bits and has taken inputs. -/
def reached (columns rows : UInt16) (inputs : List Console.Input) : Terminal :=
  ((Console.start ⟨columns.toNat, rows.toNat⟩).takeAll inputs).terminal

theorem reached_wellFormed (columns rows : UInt16) (inputs : List Console.Input) :
    (reached columns rows inputs).WellFormed :=
  ((Console.Keeps.start ⟨columns.toNat, rows.toNat⟩).takeAll inputs).wellFormed

theorem reached_fitsWords (columns rows : UInt16) (inputs : List Console.Input) :
    Guarded.FitsWords (reached columns rows inputs).size := by
  have keeps := (Console.Keeps.start ⟨columns.toNat, rows.toNat⟩).takeAll inputs
  rw [reached, keeps.size_eq]
  exact Guarded.fitsWords_words columns rows

end RoguePilot.Terminal
