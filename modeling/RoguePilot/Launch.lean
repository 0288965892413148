import RoguePilot.Config.Basic
import RoguePilot.World.Path
import RoguePilot.World.Request

/-!
# Starting the game

The game is started with a character that is settled on its command line, so that it asks nothing before
the dungeon appears. A game of the same character that was saved earlier would be continued instead;
therefore such a save is removed first.
-/

namespace RoguePilot.Launch

/-- The save that an earlier game of the same character may have left. -/
def savePath (game : GameConfig) : String :=
  World.Path.join (World.Path.join (game.workingDirectory.getD ".") "saves")
    (game.characterName ++ ".cs")

/-- How the game is started on a screen of the given extent. -/
def command (game : GameConfig) (size : Size) : World.Command where
  program := game.binary
  arguments :=
    ["-dir", ".", "-rc", game.rcFile, "-name", game.characterName, "-species", game.species,
     "-background", game.background] ++ game.extraArguments
  environment :=
    [("COLUMNS", toString size.columns), ("LINES", toString size.rows),
     ("TERM", game.terminalKind)]
  directory := game.workingDirectory

/-- Why the game cannot be started. -/
inductive Fault where
  /-- The program cannot be run. -/
  | spawn (program : String) (fault : World.FileFault)
  /-- An earlier save cannot be removed. -/
  | staleSave (path : String) (fault : World.FileFault)
deriving DecidableEq, Repr

/-- The wording of a fault. -/
def Fault.message : Fault → String
  | .spawn program fault => "Failed to spawn " ++ World.shown program ++ ": " ++ fault.message
  | .staleSave path fault =>
    "Failed to remove stale save file " ++ path ++ ": " ++ fault.message

/-- Removes the save of an earlier game, if there is one. -/
def removeStaleSave (game : GameConfig) : World.Program (Except Fault Unit) := do
  if ← World.pathExists (savePath game) then
    match ← World.removeFile (savePath game) with
    | .ok () => return .ok ()
    | .error fault => return .error (.staleSave (savePath game) fault)
  else return .ok ()

/-- Starts the game. -/
def start (game : GameConfig) (size : Size) : World.Program (Except Fault Unit) := do
  match ← removeStaleSave game with
  | .error fault => return .error fault
  | .ok () =>
    match ← World.spawn (command game size) with
    | .ok () => return .ok ()
    | .error fault => return .error (.spawn game.binary fault)

/-- Does for an episode what it asks. -/
def respond (game : GameConfig) :
    (request : Play.Request) → World.Program (Play.Answer request)
  | .launch size => do return (← start game size).isOk
  | .write keys => .ask (.write keys) .done
  | .poll milliseconds => .ask (.poll milliseconds) .done
  | .clock => .ask .clock .done
  | .isRunning => .ask .isRunning .done
  | .terminate milliseconds => .ask (.terminate milliseconds) .done

/-- An episode's program with the game as the configured child. -/
def play {α : Type} (game : GameConfig) (program : Play.Program α) : World.Program α :=
  program.translate (respond game)

end RoguePilot.Launch
