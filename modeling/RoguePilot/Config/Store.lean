import RoguePilot.Config.Document
import RoguePilot.World.Path
import RoguePilot.World.Request

/-!
# Where settings are kept

Settings are kept in a file, which is either named or the usual one in the user's home directory. A named
file must be there and well-formed; where the usual one is missing or broken, the defaults stand. Saving
makes the directory of the file first.
-/

namespace RoguePilot

/-- What the environment says about the user's home directory. -/
structure Surroundings where
  /-- The home directory. -/
  home : Option String := none
  /-- The profile directory, which counts more. -/
  userProfile : Option String := none
deriving DecidableEq, Repr

namespace Surroundings

/-- The user's home directory. -/
def homeDirectory? (surroundings : Surroundings) : Option String :=
  surroundings.userProfile.or surroundings.home

/-- The directory for the settings and the log. -/
def ownDirectory? (surroundings : Surroundings) : Option String :=
  surroundings.homeDirectory?.map fun home => World.Path.join home ".crawlterm"

/-- The usual file of the settings. -/
def settingsPath? (surroundings : Surroundings) : Option String :=
  surroundings.ownDirectory?.map fun directory => World.Path.join directory "config.toml"

/-- The usual file of the log; without a home directory it is in the current one. -/
def logPath (surroundings : Surroundings) : String :=
  match surroundings.ownDirectory? with
  | some directory => World.Path.join directory "crawlterm.log"
  | none => "crawlterm.log"

end Surroundings

/-- The file of the log. -/
def LogConfig.path (log : LogConfig) (surroundings : Surroundings) : String :=
  log.file.getD surroundings.logPath

namespace Config

/-- Why settings cannot be loaded or saved. -/
inductive StoreFault where
  /-- The file cannot be read. -/
  | unread (path : String) (fault : World.FileFault)
  /-- The document in the file is not accepted. -/
  | malformed (path : String) (fault : Toml.Fault)
  /-- No document can hold the settings. -/
  | unwritable
  /-- The file cannot be written. -/
  | unwritten (path : String) (fault : World.FileFault)
deriving DecidableEq, Repr

namespace StoreFault

/-- The wording of what lies beneath a fault. -/
def cause : StoreFault → String
  | .unread _ fault => fault.message
  | .malformed _ fault => fault.message
  | .unwritable => "out-of-range value for u64 type"
  | .unwritten _ fault => fault.message

/-- The wording of a fault. -/
def message (fault : StoreFault) : String :=
  match fault with
  | .unread path _ => "Failed to read config " ++ path ++ ": " ++ fault.cause
  | .malformed path _ => "Failed to parse config " ++ path ++ ": " ++ fault.cause
  | .unwritable => "Failed to serialize config: " ++ fault.cause
  | .unwritten path _ => "Failed to write config " ++ path ++ ": " ++ fault.cause

end StoreFault

/-- The settings that the content of a file holds. -/
def ofContent (path : String) (content : List UInt8) : Except StoreFault Config :=
  match Text.Utf8.text? content with
  | none => .error (.unread path .notText)
  | some characters =>
    match parse characters with
    | .ok config => .ok config
    | .error fault => .error (.malformed path fault)

/-- Loads the settings from a file. -/
def loadFrom (path : String) : World.Program (Except StoreFault Config) := do
  match ← World.readFile path with
  | .ok content => return ofContent path content
  | .error fault => return .error (.unread path fault)

/-- Loads the settings from the usual file, or else the defaults. -/
def load (surroundings : Surroundings) : World.Program Config :=
  match surroundings.settingsPath? with
  | none => return {}
  | some path => do
    if ← World.pathExists path then
      match ← loadFrom path with
      | .ok config => return config
      | .error _ => return {}
    else return {}

/-- Makes the directory of a file, unless it is there or is the current one. -/
def makeRoom (path : String) : World.Program (Except World.FileFault Unit) :=
  match World.Path.parent? path with
  | none => return .ok ()
  | some directory => do
    if directory.isEmpty then return .ok ()
    else if ← World.pathExists directory then return .ok ()
    else World.makeDirectories directory

/-- Saves the settings in a file. -/
def saveTo (config : Config) (path : String) : World.Program (Except StoreFault Unit) :=
  match config.render? with
  | none => return .error .unwritable
  | some characters => do
    match ← makeRoom path with
    | .error fault => return .error (.unwritten path fault)
    | .ok () =>
      match ← World.writeFile path (Text.Utf8.encode characters) with
      | .error fault => return .error (.unwritten path fault)
      | .ok () => return .ok ()

end Config

end RoguePilot
