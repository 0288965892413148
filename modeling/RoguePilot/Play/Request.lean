import RoguePilot.Dialogue
import RoguePilot.Screen.Basic

/-!
# What an episode asks of the outside

An episode starts the game, types keys, waits for output, looks at the clock, asks whether the game is
still running, and stops it. This is all it depends on.
-/

namespace RoguePilot.Play

/-- What one wait for output brought. -/
structure Reading where
  /-- The next chunk of output, unless none came in time. -/
  chunk : Option (List UInt8)
  /-- The clock after the wait, in nanoseconds. -/
  clock : Nat
deriving DecidableEq, Repr

/-- What an episode can ask. -/
inductive Request where
  /-- Start the game on a screen of the given extent. -/
  | launch (size : Size)
  /-- Type keys. -/
  | write (keys : List UInt8)
  /-- Wait for output, so many milliseconds at most. -/
  | poll (milliseconds : Nat)
  /-- Look at the clock. -/
  | clock
  /-- Ask whether output can still come. -/
  | isRunning
  /-- Stop the game, after so many milliseconds by force. -/
  | terminate (milliseconds : Nat)
deriving DecidableEq, Repr

/-- The answers to each request: whether it succeeded, or what it brought. -/
def Answer : Request → Type
  | .launch _ => Bool
  | .write _ => Bool
  | .poll _ => Reading
  | .clock => Nat
  | .isRunning => Bool
  | .terminate _ => Unit

/-- The requests of an episode with their answers. -/
def signature : Signature := ⟨Request, Answer⟩

/-- A program of an episode. -/
abbrev Program (α : Type) : Type := Dialogue signature α

/-- Starts the game and tells whether it runs. -/
def launch (size : Size) : Program Bool := .ask (.launch size) .done

/-- Types keys and tells whether they were accepted. -/
def write (keys : List UInt8) : Program Bool := .ask (.write keys) .done

/-- Waits for output. -/
def poll (milliseconds : Nat) : Program Reading := .ask (.poll milliseconds) .done

/-- Looks at the clock. -/
def clock : Program Nat := .ask .clock .done

/-- Tells whether output can still come. -/
def isRunning : Program Bool := .ask .isRunning .done

/-- Stops the game. -/
def terminate (milliseconds : Nat) : Program Unit := .ask (.terminate milliseconds) .done

end RoguePilot.Play
