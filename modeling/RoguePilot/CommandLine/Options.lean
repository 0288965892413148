import RoguePilot.Config.Document
import RoguePilot.Number.Numeral

/-!
# Options of the command line

The arguments are read from left to right. Asking for help or for the version ends the reading at once,
and so does the first fault; the last value given for a setting counts.
-/

namespace RoguePilot.CommandLine

/-- What is to be played, and how. -/
structure Options where
  /-- The file of the settings, if it is not the usual one. -/
  configPath : Option String := none
  /-- The program to run, if it is not the configured one. -/
  binary : Option String := none
  /-- The directory it runs in, if it is not the configured one. -/
  workingDirectory : Option String := none
  /-- How many episodes are played. -/
  episodes : Nat := 1
  /-- How many steps an episode has at most. -/
  stepLimit : Nat := 5000
  /-- The keys that are typed in turn. -/
  keys : String := "o5"
  /-- The last screen of each episode is printed. -/
  dump : Bool := false
deriving DecidableEq, Repr

/-- What takes a value on the command line. -/
inductive Setting where
  /-- The file of the settings. -/
  | config
  /-- The program to run. -/
  | binary
  /-- The directory it runs in. -/
  | directory
  /-- The count of episodes. -/
  | episodes
  /-- The limit of steps. -/
  | steps
  /-- The keys to type. -/
  | keys
deriving DecidableEq, Repr

/-- The name of a setting. -/
def Setting.name : Setting → String
  | .config => "config"
  | .binary => "binary"
  | .directory => "dir"
  | .episodes => "episodes"
  | .steps => "steps"
  | .keys => "keys"

/-- What an argument says. -/
inductive Flag where
  /-- Explain the options. -/
  | help
  /-- Tell the version. -/
  | version
  /-- Print the last screen of each episode. -/
  | dump
  /-- A value follows. -/
  | value (setting : Setting)
deriving DecidableEq, Repr

/-- The flag that an argument stands for. -/
def Flag.ofArgument? : String → Option Flag
  | "-h" | "--help" => some .help
  | "-v" | "--version" => some .version
  | "--dump" => some .dump
  | "-c" | "--config" => some (.value .config)
  | "-b" | "--binary" => some (.value .binary)
  | "-d" | "--dir" => some (.value .directory)
  | "-e" | "--episodes" => some (.value .episodes)
  | "-s" | "--steps" => some (.value .steps)
  | "-k" | "--keys" => some (.value .keys)
  | _ => none

/-- Why the arguments are not accepted. -/
inductive ArgumentFault where
  /-- The value of a setting is missing. -/
  | missingValue (setting : Setting)
  /-- The count of episodes is no number, or too great. -/
  | badEpisodeCount (value : String)
  /-- The limit of steps is no number, or too great. -/
  | badStepCount (value : String)
  /-- There are no keys to type. -/
  | noKeys
  /-- The argument says nothing. -/
  | unknown (argument : String)
deriving DecidableEq, Repr

/-- The wording of a fault. -/
def ArgumentFault.message : ArgumentFault → String
  | .missingValue setting => "Missing " ++ setting.name ++ " argument"
  | .badEpisodeCount value => "Invalid episode count: " ++ value
  | .badStepCount value => "Invalid step count: " ++ value
  | .noKeys => "Key cycle must not be empty"
  | .unknown argument => "Unknown argument: " ++ argument ++ ". Use -h for help."

/-- The options after a setting was given a value. -/
def Options.set (options : Options) (setting : Setting) (value : String) :
    Except ArgumentFault Options :=
  match setting with
  | .config => .ok { options with configPath := some value }
  | .binary => .ok { options with binary := some value }
  | .directory => .ok { options with workingDirectory := some value }
  | .episodes =>
    match Numeral.unsignedUpTo? Config.greatest32 value.toList with
    | some episodes => .ok { options with episodes }
    | none => .error (.badEpisodeCount value)
  | .steps =>
    match Numeral.unsignedUpTo? Config.greatest64 value.toList with
    | some stepLimit => .ok { options with stepLimit }
    | none => .error (.badStepCount value)
  | .keys => if value.isEmpty then .error .noKeys else .ok { options with keys := value }

/-- What the arguments ask for. -/
inductive Errand where
  /-- Explain the options. -/
  | help
  /-- Tell the version. -/
  | version
  /-- Play. -/
  | play (options : Options)
deriving DecidableEq, Repr

/-- Reads arguments, given the options so far. -/
def Options.readFrom (options : Options) : List String → Except ArgumentFault Errand
  | [] => .ok (.play options)
  | argument :: rest =>
    match Flag.ofArgument? argument with
    | none => .error (.unknown argument)
    | some .help => .ok .help
    | some .version => .ok .version
    | some .dump => readFrom { options with dump := true } rest
    | some (.value setting) =>
      match rest with
      | [] => .error (.missingValue setting)
      | value :: later =>
        match options.set setting value with
        | .ok changed => readFrom changed later
        | .error fault => .error fault

/-- What the arguments ask for. -/
def Errand.ofArguments (arguments : List String) : Except ArgumentFault Errand :=
  Options.readFrom {} arguments

/-- The settings with what the options say instead. -/
def Options.override (options : Options) (config : Config) : Config :=
  { config with
    game :=
      { config.game with
        binary := options.binary.getD config.game.binary
        workingDirectory := options.workingDirectory.or config.game.workingDirectory } }

end RoguePilot.CommandLine
