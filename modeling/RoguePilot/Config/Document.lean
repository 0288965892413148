import RoguePilot.Config.Basic
import RoguePilot.Toml.Written

/-!
# Settings as a document

The settings are kept in a TOML document with a table for each group. Every table and every key may be
missing, in which case the default stands, and unknown ones are ignored; but a known key with a value of
the wrong kind or out of its range is a fault of the document.
-/

namespace RoguePilot.Config

open Toml (Fault Table Value Written)

/-! ## Reading -/

/--
The entries of a group of settings. A list gives the settings in their order, and a date is a table with
nothing in it that is known here.
-/
def entriesOf (key : String) (keys : List String) : Value → Except Fault Table
  | .table _ entries => .ok entries
  | .array items => .ok (keys.zip items)
  | .tables items => .ok (keys.zip (items.reverse.map (Value.table .header)))
  | .moment _ => .ok []
  | _ => .error (.badSetting key)

/-- What is read for a key; without a value, the default. -/
def settingOr {α : Type} (table : Table) (key : String) (fallback : α)
    (read : String → Value → Except Fault α) : Except Fault α :=
  match table.get? key with
  | none => .ok fallback
  | some value => read key value

/-- A text. -/
def readText (key : String) : Value → Except Fault String
  | .text text => .ok text
  | _ => .error (.badSetting key)

/-- A text that may be unset. -/
def readOptional (key : String) (value : Value) : Except Fault (Option String) :=
  (readText key value).map some

/-- A list of texts. -/
def readTexts (key : String) : Value → Except Fault (List String)
  | .array items => items.mapM (readText key)
  | _ => .error (.badSetting key)

/-- A number that is not negative, up to the greatest admissible one. -/
def readNumber (greatest : Nat) (key : String) : Value → Except Fault Nat
  | .integer (.ofNat number) =>
    if number ≤ greatest then .ok number else .error (.badSetting key)
  | _ => .error (.badSetting key)

/-- The greatest number of sixteen bits. -/
def greatest16 : Nat := 65535

/-- The greatest number of thirty-two bits. -/
def greatest32 : Nat := 4294967295

/-- The greatest number of sixty-four bits. -/
def greatest64 : Nat := 18446744073709551615

/-- The keys of the game's settings in their order. -/
def gameKeys : List String :=
  ["binary", "working_dir", "rc_file", "character_name", "species", "background", "weapon_key",
   "term", "extra_args"]

/-- Reads the game's settings. -/
def gameOf (table : Table) : Except Fault GameConfig := do
  let fallback : GameConfig := {}
  return {
    binary := ← settingOr table "binary" fallback.binary readText
    workingDirectory := ← settingOr table "working_dir" fallback.workingDirectory readOptional
    rcFile := ← settingOr table "rc_file" fallback.rcFile readText
    characterName := ← settingOr table "character_name" fallback.characterName readText
    species := ← settingOr table "species" fallback.species readText
    background := ← settingOr table "background" fallback.background readText
    weaponKey := ← settingOr table "weapon_key" fallback.weaponKey readText
    terminalKind := ← settingOr table "term" fallback.terminalKind readText
    extraArguments := ← settingOr table "extra_args" fallback.extraArguments readTexts }

/-- The keys of the terminal's settings in their order. -/
def terminalKeys : List String := ["rows", "cols"]

/-- Reads the terminal's settings. -/
def terminalOf (table : Table) : Except Fault TerminalConfig := do
  let fallback : TerminalConfig := {}
  return {
    rows := ← settingOr table "rows" fallback.rows (readNumber greatest16)
    columns := ← settingOr table "cols" fallback.columns (readNumber greatest16) }

/-- The keys of the timing settings in their order. -/
def timingKeys : List String :=
  ["poll_interval_ms", "read_timeout_ms", "long_running_timeout_ms", "frame_limit_ms",
   "start_attempts", "stuck_step_limit", "long_running_actions", "quit_grace_ms"]

/-- Reads the timing settings. -/
def timingOf (table : Table) : Except Fault TimingConfig := do
  let fallback : TimingConfig := {}
  return {
    pollInterval :=
      ← settingOr table "poll_interval_ms" fallback.pollInterval (readNumber greatest64)
    readTimeout := ← settingOr table "read_timeout_ms" fallback.readTimeout (readNumber greatest64)
    longRunningTimeout :=
      ← settingOr table "long_running_timeout_ms" fallback.longRunningTimeout
          (readNumber greatest64)
    frameLimit := ← settingOr table "frame_limit_ms" fallback.frameLimit (readNumber greatest64)
    startAttempts :=
      ← settingOr table "start_attempts" fallback.startAttempts (readNumber greatest32)
    stuckStepLimit :=
      ← settingOr table "stuck_step_limit" fallback.stuckStepLimit (readNumber greatest32)
    longRunningActions :=
      ← settingOr table "long_running_actions" fallback.longRunningActions readText
    quitGrace := ← settingOr table "quit_grace_ms" fallback.quitGrace (readNumber greatest64) }

/-- The keys of the log's settings in their order. -/
def logKeys : List String := ["level", "file"]

/-- Reads the log's settings. -/
def logOf (table : Table) : Except Fault LogConfig := do
  let fallback : LogConfig := {}
  return {
    level := ← settingOr table "level" fallback.level readText
    file := ← settingOr table "file" fallback.file readOptional }

/-- Reads a group of settings, which may be missing. -/
def groupOf {α : Type} (table : Table) (key : String) (keys : List String) (fallback : α)
    (read : Table → Except Fault α) : Except Fault α :=
  settingOr table key fallback fun key value => (entriesOf key keys value).bind read

/-- Reads all settings. -/
def ofTable (table : Table) : Except Fault Config := do
  return {
    game := ← groupOf table "game" gameKeys {} gameOf
    terminal := ← groupOf table "terminal" terminalKeys {} terminalOf
    timing := ← groupOf table "timing" timingKeys {} timingOf
    log := ← groupOf table "log" logKeys {} logOf }

/-- Reads the text of a document. -/
def parse (text : List Char) : Except Fault Config :=
  (Toml.parse text).bind ofTable

/-! ## Writing -/

/-- A setting that is only written if it is set. -/
def optional (key : String) (value : Option String) : List (String × Written) :=
  (value.map fun text => (key, Written.text text)).toList

/-- The game's settings as they are written. -/
def gameSettings (game : GameConfig) : List (String × Written) :=
  [("binary", .text game.binary)] ++ optional "working_dir" game.workingDirectory ++
    [("rc_file", .text game.rcFile),
     ("character_name", .text game.characterName),
     ("species", .text game.species),
     ("background", .text game.background),
     ("weapon_key", .text game.weaponKey),
     ("term", .text game.terminalKind),
     ("extra_args", .texts game.extraArguments)]

/-- The terminal's settings as they are written. -/
def terminalSettings (terminal : TerminalConfig) : List (String × Written) :=
  [("rows", .number terminal.rows), ("cols", .number terminal.columns)]

/-- The timing settings as they are written. -/
def timingSettings (timing : TimingConfig) : List (String × Written) :=
  [("poll_interval_ms", .number timing.pollInterval),
   ("read_timeout_ms", .number timing.readTimeout),
   ("long_running_timeout_ms", .number timing.longRunningTimeout),
   ("frame_limit_ms", .number timing.frameLimit),
   ("start_attempts", .number timing.startAttempts),
   ("stuck_step_limit", .number timing.stuckStepLimit),
   ("long_running_actions", .text timing.longRunningActions),
   ("quit_grace_ms", .number timing.quitGrace)]

/-- The log's settings as they are written. -/
def logSettings (log : LogConfig) : List (String × Written) :=
  [("level", .text log.level)] ++ optional "file" log.file

/-- All settings as they are written. -/
def sections (config : Config) : List Toml.Section :=
  [⟨"game", gameSettings config.game⟩, ⟨"terminal", terminalSettings config.terminal⟩,
   ⟨"timing", timingSettings config.timing⟩, ⟨"log", logSettings config.log⟩]

/-- Every number of the section can be written: a document holds signed numbers of 64 bits. -/
def isWritable (part : Toml.Section) : Bool :=
  part.settings.all fun setting =>
    match setting.2 with
    | .number number => Toml.Word.fits number
    | _ => true

/-- The text of the document that holds the settings, if all of them can be written. -/
def render? (config : Config) : Option (List Char) :=
  if config.sections.all isWritable then some (Toml.render config.sections) else none

end RoguePilot.Config
