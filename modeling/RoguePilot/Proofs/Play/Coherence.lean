import RoguePilot.Proofs.Game.Score
import RoguePilot.Proofs.Play.Turn

/-!
# The snapshot agrees with the screen

Between calls, what is remembered of the game is what the screen shows: reading the panel again
would change nothing, and while the panel is shown the map is the one that is drawn. Nothing but
output changes the screen, every frame with output is evaluated, and a session starts with a blank
screen.
-/

namespace RoguePilot.Episode

open Dialogue

/-- What is remembered agrees with a screen. -/
structure AgreesWith (episode : Episode) (screen : Screen) : Prop where
  /-- Reading the panel again changes nothing. -/
  snapshot_eq : StatusPanel.snapshot screen episode.snapshot = episode.snapshot
  /-- The main screen is remembered just when it is shown. -/
  onMainScreen_eq : episode.snapshot.onMainScreen = StatusPanel.isShown screen
  /-- On the main screen the map is the one that is drawn. -/
  map_eq : episode.snapshot.onMainScreen = true → episode.map = .ofScreen screen

/-- What is remembered agrees with the screen, if there is one. -/
def Coherent (episode : Episode) : Prop :=
  ∀ session, episode.session = some session → episode.AgreesWith session.screen

theorem Coherent.of_eq {before after : Episode} (coherent : before.Coherent)
    (session_eq : after.session = before.session) (snapshot_eq : after.snapshot = before.snapshot)
    (map_eq : after.map = before.map) : after.Coherent := by
  intro session present
  rw [session_eq] at present
  obtain ⟨again, shown, drawn⟩ := coherent session present
  constructor
  · rw [snapshot_eq]
    exact again
  · rw [snapshot_eq]
    exact shown
  · rw [snapshot_eq, map_eq]
    exact drawn

theorem coherent_of_closed {episode : Episode} (closed : episode.session = none) :
    episode.Coherent := by
  intro session present
  rw [closed] at present
  contradiction

/-- A new session agrees with what is remembered of a game that has shown nothing. -/
theorem coherent_opened (episode : Episode) : episode.opened.Coherent := by
  intro session present
  obtain rfl : Session.start episode.size = session := Option.some.inj present
  have hidden : StatusPanel.isShown (Session.start episode.size).screen = false :=
    StatusPanel.isShown_blank _
  refine ⟨?_, hidden.symm, fun shown => nomatch shown⟩
  simp only [StatusPanel.snapshot, hidden]
  rfl

/-- Evaluating a frame makes what is remembered agree with the screen, whatever it was before. -/
theorem coherent_takeSnapshot (episode : Episode) (frame : Frame) :
    (episode.takeSnapshot frame).1.Coherent := by
  unfold takeSnapshot
  split
  · next absent => exact coherent_of_closed absent
  · next session present =>
    intro shown_session same
    obtain rfl : session = shown_session := Option.some.inj (present.symm.trans same)
    have panel := StatusPanel.onMainScreen_snapshot session.screen episode.snapshot
    obtain ⟨won, died, escapedWithoutOrb, hasOrb, scored_eq, -⟩ :=
      Score.transition_eq_withFindings episode.snapshot
        (StatusPanel.snapshot session.screen episode.snapshot) frame.text
    constructor
    · simp only [scored_eq, StatusPanel.snapshot_withFindings, StatusPanel.snapshot_snapshot]
    · simp only [scored_eq]
      exact panel
    · simp only [scored_eq]
      intro shown
      exact if_pos shown

theorem advancingKeeps_coherent : AdvancingKeeps Coherent := by
  intro before result coherent advances
  cases advances with
  | silent reads session_eq => exact coherent.of_eq session_eq reads.snapshot_eq reads.map_eq
  | evaluated reads frame => exact coherent_takeSnapshot _ frame

theorem call_coherent (polls : Nat) {episode : Episode} (coherent : episode.Coherent)
    (next : Call) : (call polls episode next).Ensures Coherent := by
  cases next with
  | reset =>
      rw [call, ensures_bind]
      refine (reset_ensures advancingKeeps_coherent coherent_opened polls episode).mono ?_
      rintro ⟨after, outcome⟩ restarts
      cases restarts with
      | refused session_eq phase_eq => exact coherent_of_closed session_eq
      | judged here hasBegun => exact here.of_eq rfl rfl rfl
  | step action =>
      rw [call, ensures_bind]
      refine (step_ensures polls episode action).mono ?_
      rintro _ (ended | ⟨able, playing, advances⟩)
      · exact coherent
      · have counted : episode.countStep.Coherent := coherent.of_eq rfl rfl rfl
        exact (advancingKeeps_coherent _ _ counted advances).of_eq rfl rfl rfl
  | close =>
      refine (close_ensures episode).mono ?_
      rintro closed rfl
      exact coherent_of_closed rfl

/--
Whatever the outside answers, after any calls of a new episode the snapshot and the map agree with
the screen, if there is one.
-/
theorem snapshot_agrees_with_screen (config : Config) (polls : Nat) (calls : List Call) :
    (callAll polls (create config) calls).Ensures fun episode =>
      ∀ session, episode.session = some session →
        StatusPanel.snapshot session.screen episode.snapshot = episode.snapshot ∧
          episode.snapshot.onMainScreen = StatusPanel.isShown session.screen ∧
          (episode.snapshot.onMainScreen = true → episode.map = .ofScreen session.screen) := by
  have start : (create config).Coherent := coherent_of_closed rfl
  refine (callAll_ensures (fun _ next here => call_coherent polls here next) calls start).mono ?_
  intro episode coherent session present
  obtain ⟨again, shown, drawn⟩ := coherent session present
  exact ⟨again, shown, drawn⟩

end RoguePilot.Episode
