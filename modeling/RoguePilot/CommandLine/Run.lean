import RoguePilot.CommandLine.Manual
import RoguePilot.CommandLine.Options
import RoguePilot.CommandLine.Summary
import RoguePilot.Config.Store
import RoguePilot.Launch
import RoguePilot.Play.Turn

/-!
# Running the program

The program loads the settings, makes sure that there is a log, and plays the episodes one after the
other. In each it types one key after the other, beginning again after the last one, and prints a summary
at the end. The argument `polls` bounds how often a frame may ask for output.
-/

namespace RoguePilot.CommandLine

/-- Complains line by line. -/
def complainLines : List String → World.Program Unit
  | [] => pure ()
  | line :: lines => do
    World.complain line.toList
    complainLines lines

/-- A text as an entry of a numbered list; its further lines are indented under the first. -/
def numbered (number : Nat) (text : String) : String :=
  "    " ++ toString number ++ ": " ++ String.intercalate "\n       " (text.splitOn "\n")

/-- The report of settings that cannot be loaded. -/
def loadReport (path : String) (fault : Config.StoreFault) : String :=
  String.intercalate "\n"
    ["Error: loading " ++ path, "", "Caused by:", numbered 0 fault.message, numbered 1 fault.cause]

/-- Loads the settings: from the named file, or the usual ones. -/
def loadConfig (surroundings : Surroundings) (configPath : Option String) :
    World.Program (Except String Config) :=
  match configPath with
  | none => do return .ok (← Config.load surroundings)
  | some path => do
    match ← Config.loadFrom path with
    | .ok config => return .ok config
    | .error fault => return .error (loadReport path fault)

/-- Makes sure that there is a log, if that is possible. -/
def prepareLog (path : String) : World.Program Unit := do
  match World.Path.parent? path with
  | some directory => let _ ← World.makeDirectories directory
  | none => pure ()
  let _ ← World.openLog path

/-- The action at a step: one of the keys, which come in turn. -/
def actionAt (keys : List UInt8) (step : Nat) : List UInt8 :=
  [keys.getD (step % keys.length) 0]

/-- Takes steps from the given one on, until the episode is over or as many have been taken. -/
def playSteps (polls : Nat) (keys : List UInt8) :
    (left : Nat) → (step : Nat) → Episode → Play.Program Episode
  | 0, _, episode => pure episode
  | left + 1, step, episode => do
    let (after, outcome) ← episode.step polls (actionAt keys step)
    if outcome.done then return after
    else playSteps polls keys left (step + 1) after

/-- Plays the next episode. -/
def playEpisode (polls : Nat) (options : Options) (episode : Episode) : Play.Program Episode := do
  let (after, done) ← episode.reset polls
  if done then return after
  else playSteps polls options.keys.toUTF8.toList options.stepLimit 0 after

/-- Prints how an episode ended. -/
def report (options : Options) (episode : Episode) : World.Program Unit := do
  World.print (summary episode)
  if options.dump then
    match episode.screen? with
    | some screen => World.print screen.text
    | none => pure ()

/-- Plays so many episodes and reports each. -/
def playEpisodes (polls : Nat) (game : GameConfig) (options : Options) :
    (count : Nat) → Episode → World.Program Episode
  | 0, episode => pure episode
  | count + 1, episode => do
    let after ← Launch.play game (playEpisode polls options episode)
    report options after
    playEpisodes polls game options count after

/-- Plays with the given settings. -/
def playWith (polls : Nat) (surroundings : Surroundings) (options : Options) (config : Config) :
    World.Program Unit := do
  prepareLog (config.log.path surroundings)
  let last ← playEpisodes polls config.game options options.episodes (.create config)
  let _ ← Launch.play config.game last.close

/-- Runs the program and yields its exit code. -/
def run (polls : Nat) (surroundings : Surroundings) (arguments : List String) :
    World.Program Nat :=
  match Errand.ofArguments arguments with
  | .error fault => do
    complainLines ["Error: " ++ fault.message, "Use --help for usage information"]
    return 1
  | .ok .help => do
    complainLines manual
    return 0
  | .ok .version => do
    complainLines [version]
    return 0
  | .ok (.play options) => do
    match ← loadConfig surroundings options.configPath with
    | .error message =>
      complainLines [message]
      return 1
    | .ok config =>
      playWith polls surroundings options (options.override config)
      return 0

end RoguePilot.CommandLine
