import RoguePilot.Config.Document
import RoguePilot.Proofs.Toml.Sections

/-!
# Settings are read back from their document

Each setting is found under the key it is written with and read by the form it is written in; an unset
one is not written and comes back unset.
-/

namespace RoguePilot.Config

open Toml (Fault Table Value Written entryOf)

/-! ## Settings in a table -/

section Settings

variable {settings : List (String × Written)} {key : String} {written : Written} {α : Type}
  {read : String → Value → Except Fault α} {fallback setting : α}

theorem get?_settings : Table.get? (settings.map entryOf) key =
    (settings.lookup key).map Written.toValue := by
  induction settings with
  | nil => rfl
  | cons first settings induction =>
      rw [List.map_cons, entryOf, Table.get?, List.lookup_cons, List.lookup_cons]
      split
      · rfl
      · exact induction

theorem settingOr_of_written (found : settings.lookup key = some written)
    (readable : read key written.toValue = .ok setting) :
    settingOr (settings.map entryOf) key fallback read = .ok setting := by
  rw [settingOr, get?_settings, found]
  exact readable

theorem settingOr_of_unset (unset : settings.lookup key = none) :
    settingOr (settings.map entryOf) key fallback read = .ok fallback := by
  rw [settingOr, get?_settings, unset]
  rfl

theorem lookup_optional (key : String) (value : Option String) :
    (optional key value).lookup key = value.map Written.text := by
  cases value with
  | none => rfl
  | some content => exact List.lookup_cons_self

theorem lookup_optional_of_ne {other : String} (different : other ≠ key) (value : Option String) :
    (optional key value).lookup other = none := by
  cases value with
  | none => rfl
  | some content =>
      have unequal : (other == key) = false := beq_eq_false_iff_ne.mpr different
      change List.lookup other [(key, Written.text content)] = none
      rw [List.lookup_cons, unequal]
      rfl

/-- An optional setting is read as it was, set or unset. -/
theorem settingOr_optional {value : Option String} (found : settings.lookup key = value.map Written.text) :
    settingOr (settings.map entryOf) key none readOptional = .ok value := by
  cases value with
  | none => exact settingOr_of_unset found
  | some content => exact settingOr_of_written found rfl

theorem readTexts_toValue (key : String) (items : List String) :
    readTexts key (Written.texts items).toValue = .ok items := by
  change (items.map Value.text).mapM (readText key) = .ok items
  induction items with
  | nil => rfl
  | cons item items induction =>
      rw [List.map_cons, List.mapM_cons, induction]
      rfl

theorem readNumber_toValue {greatest number : Nat} (key : String) (bounded : number ≤ greatest) :
    readNumber greatest key (Written.number number).toValue = .ok number :=
  if_pos bounded

end Settings

/-- The greatest number of sixty-four bits that a document can hold, since its numbers are signed. -/
def greatestWritten : Nat := 9223372036854775807

/-- The numbers of the settings are within their bounds. -/
structure Bounded (config : Config) : Prop where
  rows : config.terminal.rows ≤ greatest16
  columns : config.terminal.columns ≤ greatest16
  pollInterval : config.timing.pollInterval ≤ greatestWritten
  readTimeout : config.timing.readTimeout ≤ greatestWritten
  longRunningTimeout : config.timing.longRunningTimeout ≤ greatestWritten
  frameLimit : config.timing.frameLimit ≤ greatestWritten
  startAttempts : config.timing.startAttempts ≤ greatest32
  stuckStepLimit : config.timing.stuckStepLimit ≤ greatest32
  quitGrace : config.timing.quitGrace ≤ greatestWritten

/-! ## Groups of settings -/

theorem gameOf_settings (game : GameConfig) : gameOf ((gameSettings game).map entryOf) = .ok game := by
  have found {key : String} {written : Written} (different : key ≠ "working_dir")
      (listed : List.lookup key
        [("binary", Written.text game.binary), ("rc_file", .text game.rcFile),
          ("character_name", .text game.characterName), ("species", .text game.species),
          ("background", .text game.background), ("weapon_key", .text game.weaponKey),
          ("term", .text game.terminalKind), ("extra_args", .texts game.extraArguments)] = some written) :
      (gameSettings game).lookup key = some written := by
    rw [gameSettings, List.lookup_append, List.lookup_append, lookup_optional_of_ne different,
      Option.or_none, ← List.lookup_append]
    exact listed
  have directory : (gameSettings game).lookup "working_dir" = game.workingDirectory.map Written.text := by
    have before : List.lookup "working_dir" [("binary", Written.text game.binary)] = none := rfl
    rw [gameSettings, List.lookup_append, List.lookup_append, lookup_optional, before, Option.none_or]
    exact Option.or_none
  have text (key : String) {content : String} (different : key ≠ "working_dir")
      (listed : (gameSettings game).lookup key = some (.text content)) (fallback : String) :
      settingOr ((gameSettings game).map entryOf) key fallback readText = .ok content :=
    settingOr_of_written listed rfl
  have items (fallback : List String) :
      settingOr ((gameSettings game).map entryOf) "extra_args" fallback readTexts = .ok game.extraArguments :=
    settingOr_of_written (found (by decide) rfl) (readTexts_toValue _ _)
  have binary := text "binary" (by decide) (found (by decide) rfl)
  have rcFile := text "rc_file" (by decide) (found (by decide) rfl)
  have characterName := text "character_name" (by decide) (found (by decide) rfl)
  have species := text "species" (by decide) (found (by decide) rfl)
  have background := text "background" (by decide) (found (by decide) rfl)
  have weaponKey := text "weapon_key" (by decide) (found (by decide) rfl)
  have terminalKind := text "term" (by decide) (found (by decide) rfl)
  simp only [gameOf, binary, settingOr_optional directory, rcFile, characterName, species, background,
    weaponKey, terminalKind, items]
  rfl

section Groups

variable {config : Config} (bounded : config.Bounded)

include bounded

theorem terminalOf_settings :
    terminalOf ((terminalSettings config.terminal).map entryOf) = .ok config.terminal := by
  have rows (fallback : Nat) : settingOr ((terminalSettings config.terminal).map entryOf) "rows" fallback
      (readNumber greatest16) = .ok config.terminal.rows :=
    settingOr_of_written rfl (readNumber_toValue _ bounded.rows)
  have columns (fallback : Nat) : settingOr ((terminalSettings config.terminal).map entryOf) "cols" fallback
      (readNumber greatest16) = .ok config.terminal.columns :=
    settingOr_of_written rfl (readNumber_toValue _ bounded.columns)
  simp only [terminalOf, rows, columns]
  rfl

theorem timingOf_settings :
    timingOf ((timingSettings config.timing).map entryOf) = .ok config.timing := by
  have number (key : String) {greatest amount : Nat}
      (listed : (timingSettings config.timing).lookup key = some (.number amount))
      (small : amount ≤ greatest) (fallback : Nat) :
      settingOr ((timingSettings config.timing).map entryOf) key fallback (readNumber greatest) =
        .ok amount := settingOr_of_written listed (readNumber_toValue key small)
  have wide {amount : Nat} (small : amount ≤ greatestWritten) : amount ≤ greatest64 :=
    Nat.le_trans small (by decide)
  have pollInterval := number "poll_interval_ms" rfl (wide bounded.pollInterval)
  have readTimeout := number "read_timeout_ms" rfl (wide bounded.readTimeout)
  have longRunningTimeout := number "long_running_timeout_ms" rfl (wide bounded.longRunningTimeout)
  have frameLimit := number "frame_limit_ms" rfl (wide bounded.frameLimit)
  have startAttempts := number "start_attempts" rfl bounded.startAttempts
  have stuckStepLimit := number "stuck_step_limit" rfl bounded.stuckStepLimit
  have quitGrace := number "quit_grace_ms" rfl (wide bounded.quitGrace)
  have actions (fallback : String) : settingOr ((timingSettings config.timing).map entryOf)
      "long_running_actions" fallback readText = .ok config.timing.longRunningActions :=
    settingOr_of_written rfl rfl
  simp only [timingOf, pollInterval, readTimeout, longRunningTimeout, frameLimit, startAttempts,
    stuckStepLimit, actions, quitGrace]
  rfl

omit bounded in
theorem logOf_settings (log : LogConfig) : logOf ((logSettings log).map entryOf) = .ok log := by
  have level (fallback : String) : settingOr ((logSettings log).map entryOf) "level" fallback readText =
      .ok log.level := settingOr_of_written rfl rfl
  have file : (logSettings log).lookup "file" = log.file.map Written.text := by
    have before : List.lookup "file" [("level", Written.text log.level)] = none := rfl
    rw [logSettings, List.lookup_append, lookup_optional, before, Option.none_or]
  simp only [logOf, level, settingOr_optional file]
  rfl

/-- The table of the sections holds the settings. -/
theorem ofTable_sections : ofTable (Toml.Section.toTable config.sections) = .ok config := by
  have game : groupOf (Toml.Section.toTable config.sections) "game" gameKeys {} gameOf = .ok config.game :=
    gameOf_settings config.game
  have terminal : groupOf (Toml.Section.toTable config.sections) "terminal" terminalKeys {} terminalOf =
      .ok config.terminal := terminalOf_settings bounded
  have timing : groupOf (Toml.Section.toTable config.sections) "timing" timingKeys {} timingOf =
      .ok config.timing := timingOf_settings bounded
  have log : groupOf (Toml.Section.toTable config.sections) "log" logKeys {} logOf = .ok config.log :=
    logOf_settings config.log
  simp only [ofTable, game, terminal, timing, log]
  rfl

/-! ## The document -/

omit bounded in
theorem fits_of_le {number : Nat} (small : number ≤ greatestWritten) : Toml.Word.fits number = true := by
  rw [greatestWritten] at small
  rw [Toml.Word.fits, Bool.and_eq_true, decide_eq_true_eq, decide_eq_true_eq]
  omega

omit bounded in
theorem readable_optional {key : String} (bareName : Toml.IsBareName key) (value : Option String) :
    ∀ setting ∈ optional key value, Toml.IsReadable setting := by
  intro setting member
  obtain ⟨content, _, rfl⟩ := Option.map_eq_some_iff.mp (Option.mem_toList.mp member)
  exact ⟨bareName, rfl⟩

omit bounded in
theorem readable_text {key : String} (bareName : Toml.IsBareName key) (content : String) :
    Toml.IsReadable (key, .text content) := ⟨bareName, rfl⟩

omit bounded in
theorem readable_number {key : String} (bareName : Toml.IsBareName key) {greatest amount : Nat}
    (small : amount ≤ greatest) (written : greatest ≤ greatestWritten) :
    Toml.IsReadable (key, .number amount) := ⟨bareName, fits_of_le (Nat.le_trans small written)⟩

theorem readable_sections : ∀ part ∈ config.sections, part.IsReadable := by
  have game : ∀ setting ∈ gameSettings config.game, Toml.IsReadable setting := by
    have items : Toml.IsReadable ("extra_args", .texts config.game.extraArguments) :=
      ⟨(by decide : Toml.IsBareName "extra_args"), rfl⟩
    simp only [gameSettings, List.forall_mem_append, List.forall_mem_cons]
    exact ⟨⟨⟨readable_text (by decide) _, by simp⟩, readable_optional (by decide) _⟩,
      readable_text (by decide) _, readable_text (by decide) _, readable_text (by decide) _,
      readable_text (by decide) _, readable_text (by decide) _, readable_text (by decide) _, items, by simp⟩
  have terminal : ∀ setting ∈ terminalSettings config.terminal, Toml.IsReadable setting := by
    simp only [terminalSettings, List.forall_mem_cons]
    exact ⟨readable_number (by decide) bounded.rows (by decide),
      readable_number (by decide) bounded.columns (by decide), by simp⟩
  have timing : ∀ setting ∈ timingSettings config.timing, Toml.IsReadable setting := by
    simp only [timingSettings, List.forall_mem_cons]
    exact ⟨readable_number (by decide) bounded.pollInterval (by decide),
      readable_number (by decide) bounded.readTimeout (by decide),
      readable_number (by decide) bounded.longRunningTimeout (by decide),
      readable_number (by decide) bounded.frameLimit (by decide),
      readable_number (by decide) bounded.startAttempts (by decide),
      readable_number (by decide) bounded.stuckStepLimit (by decide), readable_text (by decide) _,
      readable_number (by decide) bounded.quitGrace (by decide), by simp⟩
  have log : ∀ setting ∈ logSettings config.log, Toml.IsReadable setting := by
    simp only [logSettings, List.forall_mem_append, List.forall_mem_cons]
    exact ⟨⟨readable_text (by decide) _, by simp⟩, readable_optional (by decide) _⟩
  have names : ∀ name ∈ ["game", "terminal", "timing", "log"], Toml.IsBareName name := by decide
  simp only [List.forall_mem_cons] at names
  simp only [sections, List.forall_mem_cons]
  exact ⟨⟨names.1, game⟩, ⟨names.2.1, terminal⟩, ⟨names.2.2.1, timing⟩, ⟨names.2.2.2.1, log⟩, by simp⟩

theorem render?_eq_some : config.render? = some (Toml.render config.sections) := by
  have writable : config.sections.all isWritable = true := by
    rw [List.all_eq_true]
    intro part member
    rw [isWritable, List.all_eq_true]
    intro setting inside
    exact ((readable_sections bounded part member).settings setting inside).value
  exact if_pos writable

end Groups

theorem distinct_sections (config : Config) : Toml.Section.Distinct config.sections where
  names := by
    change ["game", "terminal", "timing", "log"].Nodup
    decide
  keys := by
    have game : ((gameSettings config.game).map Prod.fst).Nodup := by
      rw [gameSettings]
      cases config.game.workingDirectory with
      | none =>
          change ["binary", "rc_file", "character_name", "species", "background", "weapon_key", "term",
            "extra_args"].Nodup
          decide
      | some directory =>
          change gameKeys.Nodup
          decide
    have terminal : ((terminalSettings config.terminal).map Prod.fst).Nodup := by
      change terminalKeys.Nodup
      decide
    have timing : ((timingSettings config.timing).map Prod.fst).Nodup := by
      change timingKeys.Nodup
      decide
    have log : ((logSettings config.log).map Prod.fst).Nodup := by
      rw [logSettings]
      cases config.log.file with
      | none =>
          change ["level"].Nodup
          decide
      | some file =>
          change logKeys.Nodup
          decide
    simp only [sections, List.forall_mem_cons]
    exact ⟨game, terminal, timing, log, by simp⟩

/-- The document that is written for the settings is read back as the settings. -/
theorem parse_render {config : Config} (bounded : config.Bounded) :
    parse (Toml.render config.sections) = .ok config := by
  rw [parse, Toml.parse_render (readable_sections bounded) (distinct_sections config)]
  exact ofTable_sections bounded

end RoguePilot.Config
