import RoguePilot.Proofs.Config.Store

/-!
# Partial settings

A document may hold any of the settings, in any order and among others that are not known. Each setting is
read by itself: what is written for it is taken if it is of the right kind and in range, and the default
stands if nothing is written. One setting that cannot be taken makes the whole document useless.
-/

namespace RoguePilot.Config

open Toml (Fault Table Value Written)
open Dialogue (Runs)

/-! ## Kinds of settings -/

/-- What can be written for a setting. -/
inductive Kind where
  /-- A text. -/
  | text
  /-- A text, for a setting that is unset by default. -/
  | optionalText
  /-- A list of texts. -/
  | texts
  /-- A number that is not negative, up to the greatest one. -/
  | number (greatest : Nat)

/-- What a setting of the kind holds. -/
abbrev Kind.Content : Kind → Type
  | .text => String
  | .optionalText => Option String
  | .texts => List String
  | .number _ => Nat

/-- The value is of the kind, in range, and stands for the content. -/
def Kind.Holds : (kind : Kind) → Value → kind.Content → Prop
  | .text, value, content => value = .text content
  | .optionalText, value, content => ∃ text, value = .text text ∧ content = some text
  | .texts, value, content => value = .array (content.map .text)
  | .number greatest, value, content => value = .integer (content : Nat) ∧ content ≤ greatest

/-- How a setting of the kind is read. -/
def Kind.read : (kind : Kind) → String → Value → Except Fault kind.Content
  | .text => readText
  | .optionalText => readOptional
  | .texts => readTexts
  | .number greatest => readNumber greatest

/-! ## Reading one setting after the other -/

variable {α β Owner : Type}

/-- What is read is good, or else the fault is justified. -/
def Reads (result : Except Fault α) (good : α → Prop) (justified : Fault → Prop) : Prop :=
  match result with
  | .ok value => good value
  | .error fault => justified fault

theorem Reads.bind {result : Except Fault α} {next : α → Except Fault β} {good : α → Prop} {goal : β → Prop}
    {justified : Fault → Prop} (first : Reads result good justified)
    (later : ∀ value, good value → Reads (next value) goal justified) : Reads (result >>= next) goal justified := by
  cases result with
  | ok value => exact later value first
  | error fault => exact first

theorem Reads.mono {result : Except Fault α} {good better : α → Prop} {justified excused : Fault → Prop}
    (here : Reads result better excused) (weaken : ∀ value, better value → good value)
    (excuse : ∀ fault, excused fault → justified fault) : Reads result good justified := by
  cases result with
  | ok value => exact weaken value here
  | error fault => exact excuse fault here

/-- The fault names the key, and nothing that a setting of the kind can hold is written. -/
def Kind.Rejects (kind : Kind) (key : String) (value : Value) (fault : Fault) : Prop :=
  fault = .badSetting key ∧ ∀ content, ¬ kind.Holds value content

theorem reads_readText (key : String) (value : Value) :
    Reads (readText key value) (Kind.text.Holds value) (Kind.text.Rejects key value) := by
  cases value with
  | text text => rfl
  | _ => exact ⟨rfl, fun _ => Value.noConfusion⟩

theorem Kind.Holds.uncons {item : Value} {items : List Value} {contents : List String}
    (all : Kind.texts.Holds (.array (item :: items)) contents) :
    ∃ first rest, Kind.text.Holds item first ∧ Kind.texts.Holds (.array items) rest := by
  have same := Value.array.inj all
  cases contents with
  | nil => contradiction
  | cons first rest => exact ⟨first, rest, (List.cons.inj same).1, congrArg Value.array (List.cons.inj same).2⟩

theorem reads_mapM_readText (key : String) (items : List Value) :
    Reads (items.mapM (readText key)) (Kind.texts.Holds (.array items))
      (Kind.texts.Rejects key (.array items)) := by
  induction items with
  | nil => rfl
  | cons item items induction =>
      rw [List.mapM_cons]
      refine ((reads_readText key item).mono (fun _ => id) ?_).bind fun first here => ?_
      · intro fault rejects
        refine ⟨rejects.1, fun contents all => ?_⟩
        obtain ⟨first, rest, here, -⟩ := all.uncons
        exact rejects.2 first here
      · refine (induction.mono (fun _ => id) ?_).bind fun rest later => ?_
        · intro fault rejects
          refine ⟨rejects.1, fun contents all => ?_⟩
          obtain ⟨first, rest, -, later⟩ := all.uncons
          exact rejects.2 rest later
        · exact congrArg Value.array (congr (congrArg List.cons here) (Value.array.inj later))

theorem Kind.reads (kind : Kind) (key : String) (value : Value) :
    Reads (kind.read key value) (kind.Holds value) (kind.Rejects key value) := by
  cases kind with
  | text => exact reads_readText key value
  | optionalText =>
      have read := reads_readText key value
      change Reads ((readText key value).map some) _ _
      cases result : readText key value with
      | ok text =>
          rw [result] at read
          exact ⟨text, read, rfl⟩
      | error fault =>
          rw [result] at read
          refine ⟨read.1, fun content held => ?_⟩
          obtain ⟨text, written, -⟩ := held
          exact read.2 text written
  | texts =>
      cases value with
      | array items => exact reads_mapM_readText key items
      | _ => exact ⟨rfl, fun _ => Value.noConfusion⟩
  | number greatest =>
      change Reads (readNumber greatest key value) _ _
      unfold readNumber
      split
      · next number =>
        split
        · next small => exact ⟨rfl, small⟩
        · next great =>
          refine ⟨rfl, fun content held => great ?_⟩
          obtain ⟨written, small⟩ := held
          rw [Int.ofNat.inj (Value.integer.inj written)]
          exact small
      · next other => exact ⟨rfl, fun content held => other content held.1⟩

theorem Kind.Holds.unique {kind : Kind} {value : Value} {one other : kind.Content} (first : kind.Holds value one)
    (second : kind.Holds value other) : one = other := by
  cases kind with
  | text => exact Value.text.inj (first.symm.trans second)
  | optionalText =>
      obtain ⟨text, written, rfl⟩ := first
      obtain ⟨again, written_again, rfl⟩ := second
      exact congrArg some (Value.text.inj (written.symm.trans written_again))
  | texts =>
      have same := Value.array.inj (first.symm.trans second)
      exact List.map_injective_iff.mpr (fun _ _ => Value.text.inj) same
  | number greatest => exact Int.ofNat.inj (Value.integer.inj (first.1.symm.trans second.1))

/-- A setting: its key, its kind, and what its owner holds for it. -/
structure Setting (Owner : Type) where
  /-- The key. -/
  key : String
  /-- What can be written for it. -/
  kind : Kind
  /-- What the owner holds. -/
  get : Owner → kind.Content

namespace Setting

variable (setting : Setting Owner) (entries : Table)

/-- The content is what is written for the setting, or the default if nothing is. -/
def Found (fallback content : setting.kind.Content) : Prop :=
  match entries.get? setting.key with
  | none => content = fallback
  | some value => setting.kind.Holds value content

/-- Something is written for the setting that is of another kind or out of range. -/
def Refused : Prop :=
  ∃ value, entries.get? setting.key = some value ∧ ∀ content, ¬ setting.kind.Holds value content

theorem reads_settingOr (fallback : setting.kind.Content) :
    Reads (settingOr entries setting.key fallback setting.kind.read) (setting.Found entries fallback)
      fun fault => fault = .badSetting setting.key ∧ setting.Refused entries := by
  unfold settingOr Found
  cases written : entries.get? setting.key with
  | none => rfl
  | some value =>
      refine (setting.kind.reads setting.key value).mono (fun _ => id) ?_
      intro fault rejects
      exact ⟨rejects.1, value, written, rejects.2⟩

theorem found_unique {fallback one other : setting.kind.Content} (first : setting.Found entries fallback one)
    (second : setting.Found entries fallback other) : one = other := by
  unfold Found at first second
  cases written : entries.get? setting.key with
  | none =>
      rw [written] at first second
      exact first.trans second.symm
  | some value =>
      rw [written] at first second
      exact first.unique second

end Setting

/-! ## Groups of settings -/

/-- For each of the settings the owner holds what is written, or what the fallback holds if nothing is. -/
def Takes (settings : List (Setting Owner)) (entries : Table) (fallback owner : Owner) : Prop :=
  ∀ setting ∈ settings, setting.Found entries (setting.get fallback) (setting.get owner)

/-- The fault names one of the settings for which something is written that it cannot hold. -/
def Blames (settings : List (Setting Owner)) (entries : Table) (fault : Fault) : Prop :=
  ∃ setting ∈ settings, fault = .badSetting setting.key ∧ setting.Refused entries

/-- The game's settings. -/
def ofGame : List (Setting GameConfig) :=
  [⟨"binary", .text, GameConfig.binary⟩, ⟨"working_dir", .optionalText, GameConfig.workingDirectory⟩,
   ⟨"rc_file", .text, GameConfig.rcFile⟩, ⟨"character_name", .text, GameConfig.characterName⟩,
   ⟨"species", .text, GameConfig.species⟩, ⟨"background", .text, GameConfig.background⟩,
   ⟨"weapon_key", .text, GameConfig.weaponKey⟩, ⟨"term", .text, GameConfig.terminalKind⟩,
   ⟨"extra_args", .texts, GameConfig.extraArguments⟩]

/-- The terminal's settings. -/
def ofTerminal : List (Setting TerminalConfig) :=
  [⟨"rows", .number greatest16, TerminalConfig.rows⟩, ⟨"cols", .number greatest16, TerminalConfig.columns⟩]

/-- The timing settings. -/
def ofTiming : List (Setting TimingConfig) :=
  [⟨"poll_interval_ms", .number greatest64, TimingConfig.pollInterval⟩,
   ⟨"read_timeout_ms", .number greatest64, TimingConfig.readTimeout⟩,
   ⟨"long_running_timeout_ms", .number greatest64, TimingConfig.longRunningTimeout⟩,
   ⟨"frame_limit_ms", .number greatest64, TimingConfig.frameLimit⟩,
   ⟨"start_attempts", .number greatest32, TimingConfig.startAttempts⟩,
   ⟨"stuck_step_limit", .number greatest32, TimingConfig.stuckStepLimit⟩,
   ⟨"long_running_actions", .text, TimingConfig.longRunningActions⟩,
   ⟨"quit_grace_ms", .number greatest64, TimingConfig.quitGrace⟩]

/-- The log's settings. -/
def ofLog : List (Setting LogConfig) :=
  [⟨"level", .text, LogConfig.level⟩, ⟨"file", .optionalText, LogConfig.file⟩]

variable {settings : List (Setting Owner)} {setting : Setting Owner} {entries : Table}

theorem reads_each (settings : List (Setting Owner)) (entries : Table) : ∀ setting ∈ settings, ∀ fallback,
    Reads (settingOr entries setting.key fallback setting.kind.read) (setting.Found entries fallback)
      (Blames settings entries) :=
  fun setting member fallback =>
    (setting.reads_settingOr entries fallback).mono (fun _ => id) fun _ blamed => ⟨setting, member, blamed⟩

theorem reads_gameOf (entries : Table) :
    Reads (gameOf entries) (Takes ofGame entries {}) (Blames ofGame entries) := by
  have each := reads_each ofGame entries
  generalize Blames ofGame entries = blames at each ⊢
  simp only [ofGame, List.forall_mem_cons] at each
  obtain ⟨binary, directory, rcFile, name, species, background, weaponKey, kind, arguments, -⟩ := each
  unfold gameOf
  refine (binary _).bind fun _ binary => ?_
  refine (directory _).bind fun _ directory => ?_
  refine (rcFile _).bind fun _ rcFile => ?_
  refine (name _).bind fun _ name => ?_
  refine (species _).bind fun _ species => ?_
  refine (background _).bind fun _ background => ?_
  refine (weaponKey _).bind fun _ weaponKey => ?_
  refine (kind _).bind fun _ kind => ?_
  refine (arguments _).bind fun _ arguments => ?_
  change Takes ofGame entries {} _
  simp only [ofGame, Takes, List.forall_mem_cons]
  exact ⟨binary, directory, rcFile, name, species, background, weaponKey, kind, arguments,
    List.forall_mem_nil _⟩

theorem reads_terminalOf (entries : Table) :
    Reads (terminalOf entries) (Takes ofTerminal entries {}) (Blames ofTerminal entries) := by
  have each := reads_each ofTerminal entries
  generalize Blames ofTerminal entries = blames at each ⊢
  simp only [ofTerminal, List.forall_mem_cons] at each
  obtain ⟨rows, columns, -⟩ := each
  unfold terminalOf
  refine (rows _).bind fun _ rows => ?_
  refine (columns _).bind fun _ columns => ?_
  change Takes ofTerminal entries {} _
  simp only [ofTerminal, Takes, List.forall_mem_cons]
  exact ⟨rows, columns, List.forall_mem_nil _⟩

theorem reads_timingOf (entries : Table) :
    Reads (timingOf entries) (Takes ofTiming entries {}) (Blames ofTiming entries) := by
  have each := reads_each ofTiming entries
  generalize Blames ofTiming entries = blames at each ⊢
  simp only [ofTiming, List.forall_mem_cons] at each
  obtain ⟨interval, timeout, longTimeout, limit, attempts, stuck, actions, grace, -⟩ := each
  unfold timingOf
  refine (interval _).bind fun _ interval => ?_
  refine (timeout _).bind fun _ timeout => ?_
  refine (longTimeout _).bind fun _ longTimeout => ?_
  refine (limit _).bind fun _ limit => ?_
  refine (attempts _).bind fun _ attempts => ?_
  refine (stuck _).bind fun _ stuck => ?_
  refine (actions _).bind fun _ actions => ?_
  refine (grace _).bind fun _ grace => ?_
  change Takes ofTiming entries {} _
  simp only [ofTiming, Takes, List.forall_mem_cons]
  exact ⟨interval, timeout, longTimeout, limit, attempts, stuck, actions, grace, List.forall_mem_nil _⟩

theorem reads_logOf (entries : Table) :
    Reads (logOf entries) (Takes ofLog entries {}) (Blames ofLog entries) := by
  have each := reads_each ofLog entries
  generalize Blames ofLog entries = blames at each ⊢
  simp only [ofLog, List.forall_mem_cons] at each
  obtain ⟨level, file, -⟩ := each
  unfold logOf
  refine (level _).bind fun _ level => ?_
  refine (file _).bind fun _ file => ?_
  change Takes ofLog entries {} _
  simp only [ofLog, Takes, List.forall_mem_cons]
  exact ⟨level, file, List.forall_mem_nil _⟩

/-! ## The document -/

/-- The entries of a table of the document; none without it. -/
def entriesIn (document : Table) (name : String) : Table :=
  match document.get? name with
  | some (.table _ entries) => entries
  | _ => []

/-- What stands under the name is a table, if anything. -/
def IsTableIn (document : Table) (name : String) : Prop :=
  ∀ value, document.get? name = some value → ∃ origin entries, value = .table origin entries

theorem reads_groupOf {document : Table} {name : String} {keys : List String} {fallback : Owner}
    {read : Table → Except Fault Owner} (isTable : IsTableIn document name)
    (reads : ∀ entries, Reads (read entries) (Takes settings entries fallback) (Blames settings entries)) :
    Reads (groupOf document name keys fallback read) (Takes settings (entriesIn document name) fallback)
      (Blames settings (entriesIn document name)) := by
  unfold groupOf settingOr entriesIn
  cases written : document.get? name with
  | none => exact fun _ _ => rfl
  | some value =>
      obtain ⟨origin, entries, rfl⟩ := isTable value written
      exact reads entries

/-- A setting of a part of the configuration as one of the whole. -/
def Setting.within (setting : Setting Owner) (part : Config → Owner) : Setting Config :=
  ⟨setting.key, setting.kind, fun config => setting.get (part config)⟩

/-- A known setting, with the name of the table it stands in. -/
structure Known extends Setting Config where
  /-- The name of the table. -/
  table : String

/-- The settings of a part of the configuration, which stand in the table of the name. -/
def listed (settings : List (Setting Owner)) (part : Config → Owner) (name : String) : List Known :=
  settings.map fun setting => ⟨setting.within part, name⟩

/-- The known settings. -/
def known : List Known :=
  listed ofGame Config.game "game" ++ listed ofTerminal Config.terminal "terminal" ++
    listed ofTiming Config.timing "timing" ++ listed ofLog Config.log "log"

/-- What the document says for a known setting, if anything. -/
def Known.written? (document : Table) (setting : Known) : Option Value :=
  (entriesIn document setting.table).get? setting.key

/-- The known settings stand in tables, wherever and in whatever way these are written. -/
def Grouped (document : Table) : Prop :=
  ∀ setting ∈ known, IsTableIn document setting.table

/-- Every known setting is what the document says for it, or the default where it says nothing. -/
def Overlays (document : Table) (config : Config) : Prop :=
  ∀ setting ∈ known,
    match setting.written? document with
    | none => setting.get config = setting.get {}
    | some value => setting.kind.Holds value (setting.get config)

/-- The document says something for the setting that is of another kind or out of range. -/
def Known.Refused (document : Table) (setting : Known) : Prop :=
  ∃ value, setting.written? document = some value ∧ ∀ content, ¬ setting.kind.Holds value content

theorem overlays_iff {document : Table} {config : Config} : Overlays document config ↔
    Takes ofGame (entriesIn document "game") {} config.game ∧
      Takes ofTerminal (entriesIn document "terminal") {} config.terminal ∧
      Takes ofTiming (entriesIn document "timing") {} config.timing ∧
      Takes ofLog (entriesIn document "log") {} config.log := by
  simp only [Overlays, known, listed, List.forall_mem_append, List.forall_mem_map, and_assoc]
  rfl

/-- The fault names a known setting that the document has something else for. -/
def BlamesKnown (document : Table) (fault : Fault) : Prop :=
  ∃ setting ∈ known, fault = .badSetting setting.key ∧ setting.Refused document

theorem reads_listed {document : Table} {part : Config → Owner} {name : String} {keys : List String}
    {fallback : Owner} {read : Table → Except Fault Owner} (grouped : Grouped document)
    (included : ∀ setting ∈ listed settings part name, setting ∈ known) (nonempty : settings ≠ [])
    (reads : ∀ entries, Reads (read entries) (Takes settings entries fallback) (Blames settings entries)) :
    Reads (groupOf document name keys fallback read) (Takes settings (entriesIn document name) fallback)
      (BlamesKnown document) := by
  have entry {setting : Setting Owner} (member : setting ∈ settings) :
      (⟨setting.within part, name⟩ : Known) ∈ known := included _ (List.mem_map_of_mem member)
  obtain ⟨first, member⟩ := List.exists_mem_of_ne_nil settings nonempty
  refine (reads_groupOf (grouped _ (entry member)) reads).mono (fun _ => id) ?_
  intro fault blames
  obtain ⟨setting, member, named, refused⟩ := blames
  exact ⟨_, entry member, named, refused⟩

theorem reads_ofTable {document : Table} (grouped : Grouped document) :
    Reads (ofTable document) (Overlays document) (BlamesKnown document) := by
  have game : ∀ setting ∈ listed ofGame Config.game "game", setting ∈ known := fun _ member => by
    simp [known, member]
  have terminal : ∀ setting ∈ listed ofTerminal Config.terminal "terminal", setting ∈ known :=
    fun _ member => by simp [known, member]
  have timing : ∀ setting ∈ listed ofTiming Config.timing "timing", setting ∈ known :=
    fun _ member => by simp [known, member]
  have log : ∀ setting ∈ listed ofLog Config.log "log", setting ∈ known := fun _ member => by
    simp [known, member]
  unfold ofTable
  refine (reads_listed grouped game (List.cons_ne_nil _ _) reads_gameOf).bind fun _ game => ?_
  refine (reads_listed grouped terminal (List.cons_ne_nil _ _) reads_terminalOf).bind fun _ terminal => ?_
  refine (reads_listed grouped timing (List.cons_ne_nil _ _) reads_timingOf).bind fun _ timing => ?_
  refine (reads_listed grouped log (List.cons_ne_nil _ _) reads_logOf).bind fun _ log => ?_
  exact overlays_iff.mpr ⟨game, terminal, timing, log⟩

theorem Takes.unique {fallback one other : Owner} (first : Takes settings entries fallback one)
    (second : Takes settings entries fallback other) : ∀ setting ∈ settings, setting.get one = setting.get other :=
  fun setting member => setting.found_unique entries (first setting member) (second setting member)

/-- The known settings are all there is to a configuration. -/
theorem Overlays.unique {document : Table} {one other : Config} (first : Overlays document one)
    (second : Overlays document other) : one = other := by
  rw [overlays_iff] at first second
  have game := first.1.unique second.1
  have terminal := first.2.1.unique second.2.1
  have timing := first.2.2.1.unique second.2.2.1
  have log := first.2.2.2.unique second.2.2.2
  simp only [ofGame, ofTerminal, ofTiming, ofLog, List.forall_mem_cons] at game terminal timing log
  obtain ⟨⟨⟩, ⟨⟩, ⟨⟩, ⟨⟩⟩ := one
  obtain ⟨⟨⟩, ⟨⟩, ⟨⟩, ⟨⟩⟩ := other
  simp_all

theorem Overlays.not_refused {document : Table} {config : Config} (overlays : Overlays document config) :
    ∀ setting ∈ known, ¬ setting.Refused document := by
  intro setting member refused
  obtain ⟨value, written, nothing⟩ := refused
  have held := overlays setting member
  rw [written] at held
  exact nothing _ held

/-! ## The file -/

/-- Loading a file with the text yields the result. -/
def Loads (path : String) (text : List Char) (result : Except StoreFault Config) : Prop :=
  Runs (loadFrom path) [⟨.readFile path, .ok (Text.Utf8.encode text)⟩] result

variable {path : String} {text : List Char} {result : Except StoreFault Config}

theorem loads_iff : Loads path text result ↔ result = ofContent path (Text.Utf8.encode text) := by
  constructor
  · intro run
    obtain ⟨answer, rest, same, done⟩ := Dialogue.runs_ask_iff.mp run
    cases same
    exact (Dialogue.runs_done_iff.mp done).2
  · intro same
    subst same
    exact .ask (.done _)

theorem loads_iff_of_document {document : Table} (parsed : Toml.parse text = .ok document) :
    Loads path text result ↔
      result = match ofTable document with
        | .ok config => .ok config
        | .error fault => .error (.malformed path fault) := by
  rw [loads_iff, ofContent, Text.Utf8.text?_encode]
  dsimp only
  rw [parse, parsed]
  rfl

/-- What sections say for a known setting, wherever they stand and in whatever order. -/
def Known.writtenIn? (parts : List Toml.Section) (setting : Known) : Option Written :=
  (parts.find? fun part => part.name = setting.table).bind fun part => part.settings.lookup setting.key

theorem get?_toTable (parts : List Toml.Section) (name : String) :
    Table.get? (Toml.Section.toTable parts) name =
      (parts.find? fun part => part.name = name).map fun part =>
        .table .header (part.settings.map Toml.entryOf) := by
  induction parts with
  | nil => rfl
  | cons part parts induction =>
      rw [Toml.Section.toTable, List.map_cons, Table.get?, List.lookup_cons, List.find?_cons]
      by_cases same : part.name = name
      · rw [decide_eq_true same, beq_iff_eq.mpr same.symm]
        rfl
      · rw [decide_eq_false same, beq_eq_false_iff_ne.mpr (Ne.symm same)]
        exact induction

theorem isTableIn_toTable (parts : List Toml.Section) (name : String) :
    IsTableIn (Toml.Section.toTable parts) name := by
  intro value written
  rw [get?_toTable] at written
  obtain ⟨part, -, rfl⟩ := Option.map_eq_some_iff.mp written
  exact ⟨_, _, rfl⟩

theorem written?_toTable (parts : List Toml.Section) (setting : Known) :
    setting.written? (Toml.Section.toTable parts) = (setting.writtenIn? parts).map Written.toValue := by
  rw [Known.written?, Known.writtenIn?, entriesIn, get?_toTable]
  cases parts.find? fun part => part.name = setting.table with
  | none => rfl
  | some part => exact get?_settings

/--
A file that holds some of the known settings in their tables, each of its kind and in range, is loaded as the
defaults with just these settings replaced, whatever else the file holds. If something else is written for
one of them, nothing is loaded, and the fault names such a setting; nor is anything loaded from a file that
is no document at all. Sections in any order, with their settings in any order and with any other sections
and settings among them, make a document that says for each setting what is written there.
-/
theorem partial_file_overlays_defaults (path : String) (text : List Char) :
    (∀ document, Toml.parse text = .ok document → Grouped document →
      (∀ config, Loads path text (.ok config) ↔ Overlays document config) ∧
      ((∀ setting ∈ known, ¬ setting.Refused document) →
        ∃ config, ∀ result, Loads path text result ↔ result = .ok config) ∧
      ((∃ setting ∈ known, setting.Refused document) →
        ∃ setting ∈ known, setting.Refused document ∧
          ∀ result, Loads path text result ↔ result = .error (.malformed path (.badSetting setting.key)))) ∧
    (∀ fault, Toml.parse text = .error fault →
      ∀ result, Loads path text result ↔ result = .error (.malformed path fault)) ∧
    ∀ parts, (∀ part ∈ parts, part.IsReadable) → Toml.Section.Distinct parts → text = Toml.render parts →
      ∃ document, Toml.parse text = .ok document ∧ Grouped document ∧
        ∀ setting ∈ known, setting.written? document = (setting.writtenIn? parts).map Written.toValue := by
  refine ⟨fun document parsed grouped => ?_, fun fault unparsed result => ?_, ?_⟩
  · have read := reads_ofTable grouped
    simp only [loads_iff_of_document parsed]
    cases loaded : ofTable document with
    | ok config =>
        rw [loaded] at read
        refine ⟨fun other => ?_, fun _ => ⟨config, fun result => Iff.rfl⟩, ?_⟩
        · constructor
          · intro same
            cases same
            exact read
          · intro overlays
            exact congrArg Except.ok (overlays.unique read)
        · intro refused
          obtain ⟨setting, member, wrong⟩ := refused
          exact absurd wrong (read.not_refused setting member)
    | error fault =>
        rw [loaded] at read
        obtain ⟨setting, member, named, refused⟩ := read
        subst named
        refine ⟨fun other => ?_, ?_, fun _ => ⟨setting, member, refused, fun result => Iff.rfl⟩⟩
        · exact iff_of_false (fun same => nomatch same) fun overlays => overlays.not_refused setting member refused
        · intro accepted
          exact absurd refused (accepted setting member)
  · rw [loads_iff, ofContent, Text.Utf8.text?_encode]
    dsimp only
    rw [parse, unparsed]
    rfl
  · intro parts readable distinct rendered
    subst rendered
    exact ⟨_, Toml.parse_render readable distinct, fun setting _ => isTableIn_toTable parts setting.table,
      fun setting _ => written?_toTable parts setting⟩

/-- Two sections out of their order, with an unknown section and an unknown setting among them. -/
def partialFile (columns : Nat) : List Toml.Section :=
  [⟨"timing", [("read_timeout_ms", .number 250)]⟩, ⟨"mods", [("seed", .number 42)]⟩,
   ⟨"terminal", [("cols", .number columns), ("theme", .text "dark")]⟩]

theorem readable_partialFile {columns : Nat} (small : columns ≤ greatestWritten) :
    ∀ part ∈ partialFile columns, part.IsReadable := by
  have names : ∀ name ∈ ["timing", "mods", "terminal"], Toml.IsBareName name := by decide
  simp only [List.forall_mem_cons] at names
  simp only [partialFile, List.forall_mem_cons]
  have timeout : (250 : Nat) ≤ greatestWritten := by decide
  have seed : (42 : Nat) ≤ greatestWritten := by decide
  refine ⟨⟨names.1, ?_⟩, ⟨names.2.1, ?_⟩, ⟨names.2.2.1, ?_⟩, List.forall_mem_nil _⟩
  · exact List.forall_mem_singleton.mpr (readable_number (by decide) timeout (Nat.le_refl _))
  · exact List.forall_mem_singleton.mpr (readable_number (by decide) seed (Nat.le_refl _))
  · exact List.forall_mem_cons.mpr ⟨readable_number (by decide) small (Nat.le_refl _),
      List.forall_mem_singleton.mpr (readable_text (by decide) _)⟩

theorem distinct_partialFile (columns : Nat) : Toml.Section.Distinct (partialFile columns) where
  names := by
    change ["timing", "mods", "terminal"].Nodup
    decide
  keys := by
    have terminal : ["cols", "theme"].Nodup := by decide
    simp only [partialFile, List.forall_mem_cons]
    exact ⟨(by decide : ["read_timeout_ms"].Nodup), (by decide : ["seed"].Nodup), terminal, List.forall_mem_nil _⟩

/-- With an admissible width both settings are loaded and the rest stands; without one nothing is loaded. -/
theorem partial_file_overlays_defaults_width :
    Loads "c.toml" (Toml.render (partialFile 132))
      (.ok { terminal := { columns := 132 }, timing := { readTimeout := 250 } }) ∧
    ∃ fault, ∀ result, Loads "c.toml" (Toml.render (partialFile 70000)) result ↔
      result = .error (.malformed "c.toml" fault) := by
  constructor
  · obtain ⟨documents, -, sections⟩ :=
      partial_file_overlays_defaults "c.toml" (Toml.render (partialFile 132))
    obtain ⟨document, parsed, grouped, written⟩ :=
      sections _ (readable_partialFile (by decide)) (distinct_partialFile 132) rfl
    refine ((documents document parsed grouped).1 _).mpr fun setting member => ?_
    rw [written setting member]
    revert setting
    simp only [known, listed, List.forall_mem_append, List.forall_mem_map, ofGame, ofTerminal, ofTiming, ofLog,
      List.forall_mem_cons]
    have none_left {Owner : Type} {property : Setting Owner → Prop} : ∀ setting ∈ [], property setting :=
      List.forall_mem_nil _
    have width : (132 : Nat) ≤ greatest16 := by decide
    have timeout : (250 : Nat) ≤ greatest64 := by decide
    exact ⟨⟨⟨⟨rfl, rfl, rfl, rfl, rfl, rfl, rfl, rfl, rfl, none_left⟩, ⟨rfl, ⟨rfl, width⟩, none_left⟩⟩,
      ⟨rfl, ⟨rfl, timeout⟩, rfl, rfl, rfl, rfl, rfl, rfl, none_left⟩⟩, ⟨rfl, rfl, none_left⟩⟩
  · obtain ⟨documents, -, sections⟩ :=
      partial_file_overlays_defaults "c.toml" (Toml.render (partialFile 70000))
    obtain ⟨document, parsed, grouped, written⟩ :=
      sections _ (readable_partialFile (by decide)) (distinct_partialFile 70000) rfl
    let columns : Known := ⟨⟨"cols", .number greatest16, fun config => config.terminal.columns⟩, "terminal"⟩
    have member : columns ∈ known := by simp [columns, known, listed, ofTerminal, Setting.within]
    have refused : columns.Refused document := by
      refine ⟨.integer 70000, written columns member, fun content held => ?_⟩
      obtain ⟨same, small⟩ := held
      have content_eq : content = 70000 := (Int.ofNat.inj (Value.integer.inj same)).symm
      rw [content_eq] at small
      exact absurd small (by decide : ¬ (70000 : Nat) ≤ greatest16)
    obtain ⟨setting, -, -, fails⟩ := (documents document parsed grouped).2.2 ⟨columns, member, refused⟩
    exact ⟨_, fails⟩

end RoguePilot.Config
