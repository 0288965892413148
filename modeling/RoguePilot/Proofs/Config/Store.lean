import RoguePilot.Config.Store
import RoguePilot.Proofs.Config.Document
import RoguePilot.Proofs.Dialogue.Hosts
import RoguePilot.Proofs.Text.Encoding
import RoguePilot.Proofs.World.FileTree
import RoguePilot.World.Rehearsal

/-!
# Saving settings and loading them again

Saving asks for one document to be written and never gives up because of the settings themselves. Whoever
finds that document in a file is given the settings back.
-/

namespace RoguePilot.Config

open Dialogue (Runs runs_bind_iff runs_ask_iff runs_done_iff)

variable {config : Config}

section Saved

variable (bounded : config.Bounded) (path : String)

include bounded

theorem ofContent_encode_render :
    ofContent path (Text.Utf8.encode (Toml.render config.sections)) = .ok config := by
  simp only [ofContent, Text.Utf8.text?_encode, parse_render bounded]

/-- Saving ends with the document written, or with the fault of a file. -/
theorem runs_saveTo {events : List (Dialogue.Exchange World.signature)} {result : Except StoreFault Unit}
    (run : Runs (saveTo config path) events result) :
    (∃ fault, result = .error (.unwritten path fault)) ∨
      result = .ok () ∧ ∃ earlier, events = earlier ++
        [⟨.writeFile path (Text.Utf8.encode (Toml.render config.sections)), .ok ()⟩] := by
  rw [saveTo, render?_eq_some bounded] at run
  obtain ⟨earlier, later, room, rfl, _, rest⟩ := runs_bind_iff.mp run
  cases room with
  | error fault => exact .inl ⟨fault, (runs_done_iff.mp rest).2⟩
  | ok _ =>
      obtain ⟨first, last, answer, rfl, asked, ended⟩ := runs_bind_iff.mp rest
      obtain ⟨told, none, rfl, done⟩ := runs_ask_iff.mp asked
      obtain ⟨rfl, rfl⟩ := runs_done_iff.mp done
      cases answer with
      | error fault => exact .inl ⟨fault, (runs_done_iff.mp ended).2⟩
      | ok _ =>
          obtain ⟨rfl, rfl⟩ := runs_done_iff.mp ended
          exact .inr ⟨rfl, earlier, rfl⟩

omit bounded in
theorem exists_runs_makeRoom : ∃ events, Runs (makeRoom path) events (.ok ()) := by
  rw [makeRoom]
  split
  · exact ⟨[], .done _⟩
  · next directory _ =>
    split
    · exact ⟨[], .done _⟩
    · exact ⟨[⟨.pathExists directory, true⟩], .ask (.done _)⟩

/-- Nothing in the settings keeps them from being saved. -/
theorem exists_runs_saveTo : ∃ events, Runs (saveTo config path) events (.ok ()) := by
  obtain ⟨events, room⟩ := exists_runs_makeRoom path
  rw [saveTo, render?_eq_some bounded]
  exact ⟨_, runs_bind_iff.mpr ⟨events, [⟨.writeFile path _, .ok ()⟩], .ok (), rfl, room, .ask (.done _)⟩⟩

/-- A file with the document is loaded as the settings. -/
theorem runs_loadFrom : Runs (loadFrom path)
    [⟨.readFile path, .ok (Text.Utf8.encode (Toml.render config.sections))⟩] (.ok config) := by
  have loaded : Runs (.done (ofContent path (Text.Utf8.encode (Toml.render config.sections))) :
      World.Program _) [] (.ok config) := by
    rw [ofContent_encode_render bounded]
    exact .done _
  exact .ask loaded

section Rehearsal

open World.Rehearsal

variable {stage before after : Stage} {content : List UInt8}

omit bounded in
theorem readFile_of_written
    (answered : host.respond (.writeFile path content) before = (.ok (), after)) :
    host.respond (.readFile path) after = (.ok content, after) := by
  change before.change (before.files.writeFile before.current path content) = _ at answered
  cases files : before.files.writeFile before.current path content with
  | error fault =>
      rw [files] at answered
      cases answered
  | ok tree =>
      rw [files] at answered
      cases answered
      exact congrArg (·, _) (World.FileTree.readFile_writeFile files)

/-- In a rehearsal, the settings that were saved without a fault are loaded. -/
theorem run_loadFrom_saveTo (saved : (saveTo config path).run host stage = (some (.ok ()), after)) :
    ((loadFrom path).run host after).1 = some (.ok config) := by
  have run := Dialogue.runs_transcript (congrArg Prod.fst saved)
  obtain ⟨_, failed⟩ | ⟨_, earlier, events_eq⟩ := runs_saveTo bounded path run
  · cases failed
  · obtain ⟨before, answered⟩ := Dialogue.respond_of_transcript_concat events_eq
    rw [saved] at answered
    have files := readFile_of_written path answered
    refine Dialogue.Host.run_of_runs (runs_loadFrom bounded path) ?_
    rw [List.map_singleton, Dialogue.Host.exchanges, files]
    rfl

end Rehearsal

end Saved

/--
Whatever the texts of the settings are, saving them can succeed, and however the world answers, it ends either
with the fault of a file or with one document written. A file with this document is loaded as the same
settings.
-/
theorem saved_settings_load (bounded : config.Bounded) (path : String) :
    (∃ events, Runs (saveTo config path) events (.ok ())) ∧
      ∃ content,
        (∀ events result, Runs (saveTo config path) events result →
          (∃ fault, result = .error (.unwritten path fault)) ∨
            result = .ok () ∧ ∃ earlier, events = earlier ++ [⟨.writeFile path content, .ok ()⟩]) ∧
        ∀ place, Runs (loadFrom place) [⟨.readFile place, .ok content⟩] (.ok config) :=
  ⟨exists_runs_saveTo bounded path, Text.Utf8.encode (Toml.render config.sections),
    fun _ _ run => runs_saveTo bounded path run, fun place => runs_loadFrom bounded place⟩

theorem saved_settings_load_quoted :
    let config : Config :=
      { game := { binary := "say \"it's\"", workingDirectory := some "C:\\new\tgames", rcFile := "",
                  species := "\nMinotaur\n'''", extraArguments := ["-seed", "42 # not = a comment", "\"\"\""] }
        timing := { readTimeout := 9223372036854775807 } }
    config.Bounded ∧
      ∃ content, ∀ place, Runs (loadFrom place) [⟨.readFile place, .ok content⟩] (.ok config) := by
  intro config
  have bounded : config.Bounded := by constructor <;> decide
  obtain ⟨_, content, _, loads⟩ := saved_settings_load bounded "config.toml"
  exact ⟨bounded, content, loads⟩

end RoguePilot.Config
