import RoguePilot.Screen.Basic
import RoguePilot.Text.Search
import RoguePilot.Text.Utf8

/-!
# Settings

What can be configured: how the game is started, the extent of its screen, the timing of frames and the
limits of an episode, and where the log goes. Every setting has a default.
-/

namespace RoguePilot

/-- How the game is started. -/
structure GameConfig where
  /-- The program to run. -/
  binary : String := "crawl"
  /-- The directory it runs in; its saves are kept there. -/
  workingDirectory : Option String := none
  /-- The settings of the game itself. -/
  rcFile : String := "./crawlrc"
  /-- The name of the character. -/
  characterName : String := "Bot"
  /-- The species of the character. -/
  species : String := "Minotaur"
  /-- The background of the character. -/
  background : String := "Berserker"
  /-- The answer to the choice of the first weapon. -/
  weaponKey : String := "c"
  /-- The kind of terminal that the game is told it has. -/
  terminalKind : String := "xterm"
  /-- Further arguments. -/
  extraArguments : List String := []
deriving DecidableEq, Repr, Inhabited

/-- The extent of the screen. -/
structure TerminalConfig where
  /-- Lines. -/
  rows : Nat := 24
  /-- Columns. -/
  columns : Nat := 80
deriving DecidableEq, Repr, Inhabited

/-- The extent as configured. -/
def TerminalConfig.size (terminal : TerminalConfig) : Size :=
  ⟨terminal.columns, terminal.rows⟩

/-- The timing of frames and the limits of an episode. Times are in milliseconds. -/
structure TimingConfig where
  /-- The longest wait for one chunk of output. -/
  pollInterval : Nat := 10
  /-- A frame without output for this long is over. -/
  readTimeout : Nat := 100
  /-- The same for keys whose effect takes long to draw. -/
  longRunningTimeout : Nat := 5000
  /-- A frame is over after this long even while output keeps arriving. -/
  frameLimit : Nat := 30000
  /-- Frames read while waiting for the dungeon. -/
  startAttempts : Nat := 30
  /-- Steps without time passing in the game before the episode is given up. -/
  stuckStepLimit : Nat := 1000
  /-- Keys whose effect takes long to draw. -/
  longRunningActions : String := "o5"
  /-- How long the game has for quitting by itself. -/
  quitGrace : Nat := 500
deriving DecidableEq, Repr, Inhabited

/-- The keys form a text that is part of the long-running ones. -/
def TimingConfig.isLongRunning (timing : TimingConfig) (keys : List UInt8) : Bool :=
  match Text.Utf8.text? keys with
  | some text => !text.isEmpty && Text.occurs text timing.longRunningActions.toList
  | none => false

/-- Where the log goes and what it holds. -/
structure LogConfig where
  /-- What is worth an entry. -/
  level : String := "info"
  /-- The file, if it is not the usual one. -/
  file : Option String := none
deriving DecidableEq, Repr, Inhabited

/-- All settings. -/
structure Config where
  /-- How the game is started. -/
  game : GameConfig := {}
  /-- The extent of the screen. -/
  terminal : TerminalConfig := {}
  /-- The timing of frames. -/
  timing : TimingConfig := {}
  /-- Where the log goes. -/
  log : LogConfig := {}
deriving DecidableEq, Repr, Inhabited

end RoguePilot
