import RoguePilot.Proofs.Play.CleanSlate
import RoguePilot.Proofs.Play.Scoring

/-!
# What the phase tells

Besides the phase there are three more things that say where an episode is: whether typing has failed,
what the snapshot says about the game, and whether the last call has reported that the episode is over.
Each is found out by itself, at every way out of a call. Nevertheless they agree, so that whoever calls
may go by any of them.
-/

namespace RoguePilot.Episode

open Dialogue

/-- An episode in a phase that says what is the case. -/
structure Stands (episode : Episode) : Prop where
  /-- Failing is a phase of its own. -/
  failed_iff : episode.failed = true ↔ episode.phase = .failed
  /-- A game that is played has started. -/
  started : episode.phase = .playing → episode.snapshot.started = true
  /-- A game that is played is not over. -/
  goesOn : episode.phase = .playing → episode.snapshot.isFinished = false

/-- A call that leaves the episode as it is now reports whether the episode is over. -/
def Reports (episode : Episode) (done : Bool) : Prop :=
  done = true ↔ episode.phase ≠ .playing

theorem Stands.able {episode : Episode} (stands : episode.Stands)
    (playing : episode.phase = .playing) : episode.failed = false := by
  refine Bool.eq_false_iff.mpr fun failed => ?_
  rw [stands.failed_iff.mp failed] at playing
  contradiction

theorem stands_create (config : Config) : (create config).Stands where
  failed_iff := ⟨nofun, nofun⟩
  started := nofun
  goesOn := nofun

/-! ## Closing -/

theorem close_stands {episode : Episode} (stands : episode.Stands) :
    episode.close.Ensures Stands := by
  refine (close_ensures episode).mono ?_
  rintro closed rfl
  exact ⟨stands.failed_iff, stands.started, stands.goesOn⟩

/-! ## Starting -/

theorem settledPhase_eq_failed_iff (episode : Episode) :
    episode.settledPhase = .failed ↔ episode.failed = true := by
  unfold settledPhase
  split
  · next failed => simp [failed]
  · next able => split <;> simp [able]

theorem settledPhase_ne_playing_iff (episode : Episode) :
    episode.settledPhase ≠ .playing ↔ episode.isOver = true := by
  unfold settledPhase isOver
  split
  · next failed => simp [failed]
  · next able => split <;> simp_all

/-- A game that is played once it was judged has begun. -/
theorem stands_judge {waited : Episode} {begun : Bool}
    (hasBegun : begun = true → waited.hasBegun = true) : (waited.judge begun).Stands where
  failed_iff := (settledPhase_eq_failed_iff (waited.judge begun)).symm
  started playing := by
    have seen := hasBegun (judge_playing playing).1
    simp only [Episode.hasBegun, Bool.and_eq_true] at seen
    exact seen.2
  goesOn playing := (judge_playing playing).2

theorem reports_judge (waited : Episode) (begun : Bool) :
    (waited.judge begun).Reports (waited.judge begun).isOver :=
  (settledPhase_ne_playing_iff (waited.judge begun)).symm

/-- The marker is still on the screen when a game has been judged. -/
theorem screenShows_of_goesOn {waited : Episode} {begun : Bool}
    (hasBegun : begun = true → waited.hasBegun = true)
    (goesOn : (waited.judge begun).isOver = false) :
    (waited.judge begun).screenShows startMarker = true := by
  have playing : (waited.judge begun).phase = .playing :=
    Decidable.not_not.mp fun ended => by
      rw [(reports_judge waited begun).mpr ended] at goesOn
      contradiction
  have seen := hasBegun (judge_playing playing).1
  simp only [Episode.hasBegun, Bool.and_eq_true] at seen
  exact seen.1

/-- Whatever has happened to it before, an episode that is started stands and is reported. -/
theorem reset_stands (polls : Nat) (episode : Episode) :
    (episode.reset polls).Ensures fun result =>
      result.1.Stands ∧ result.1.Reports result.2 ∧
        (result.2 = false → result.1.screenShows startMarker = true) := by
  have keeps : AdvancingKeeps fun _ => True := fun _ _ _ _ => trivial
  refine reset_ensures_of_judge keeps polls episode ?_ trivial ?_
  · refine ⟨⟨?_, nofun, nofun⟩, ?_, nofun⟩
    · exact ⟨fun _ => rfl, fun _ => rfl⟩
    · exact ⟨fun _ => nofun, fun _ => rfl⟩
  · intro waited begun _ hasBegun
    exact ⟨stands_judge hasBegun, reports_judge waited begun, screenShows_of_goesOn hasBegun⟩

/-! ## Stepping -/

@[simp] theorem phase_takeSnapshot (episode : Episode) (frame : Frame) :
    (episode.takeSnapshot frame).1.phase = episode.phase := by
  unfold takeSnapshot
  split <;> rfl

/-- The phase is decided at the ends of calls only. -/
theorem Advances.phase_eq {before : Episode} {result : Episode × Int}
    (advances : Advances before result) : result.1.phase = before.phase := by
  cases advances with
  | silent reads session_eq => exact reads.phase_eq
  | evaluated reads frame =>
      rw [phase_takeSnapshot]
      exact reads.phase_eq

theorem reports_concludeStep {episode : Episode} (playing : episode.phase = .playing) :
    episode.concludeStep.Reports episode.endsAfterStep := by
  unfold Reports concludeStep
  split
  · next failed => simp [endsAfterStep, isOver, failed]
  · split
    · next ends => simp [ends]
    · next goesOn => simp [goesOn, playing]

theorem stands_concludeStep {episode : Episode} (playing : episode.phase = .playing)
    (started : episode.snapshot.started = true) : episode.concludeStep.Stands where
  failed_iff := by
    unfold concludeStep
    split
    · next failed => simp [failed]
    · next able => split <;> simp [able, playing]
  started _ := started
  goesOn := isFinished_of_playing

theorem Stands.step {before : Episode} {result : Episode × Outcome} (stands : before.Stands)
    (steps : Steps before result) : result.1.Stands ∧ result.1.Reports result.2.done := by
  cases steps with
  | idle ended =>
      refine ⟨stands, fun _ playing => ?_, fun _ => rfl⟩
      rcases ended with failed | ended
      · rw [stands.able playing] at failed
        contradiction
      · exact ended playing
  | @acted after reward able playing advances =>
      have still : (before.settleStep after reward).phase = .playing :=
        advances.phase_eq.trans playing
      have counted : AdvancesScore before.countStep (after, reward) :=
        advances.score (stands.started playing) (stands.goesOn playing)
      exact ⟨stands_concludeStep still counted.moves.started, reports_concludeStep still⟩

/-- An episode that is not being played takes no step. -/
theorem step_of_not_playing {episode : Episode} (ended : episode.phase ≠ .playing) (polls : Nat)
    (action : List UInt8) : episode.step polls action = pure (episode, ⟨0, true⟩) := by
  rw [step, decide_eq_true ended, Bool.or_true, if_pos rfl]

/-! ## Any calls -/

theorem call_stands (polls : Nat) {episode : Episode} (stands : episode.Stands) (next : Call) :
    (call polls episode next).Ensures Stands := by
  cases next with
  | reset =>
      rw [call, ensures_bind]
      exact (reset_stands polls episode).mono fun _ stood => stood.1
  | step action =>
      rw [call, ensures_bind]
      exact (step_ensures polls episode action).mono fun _ steps => (stands.step steps).1
  | close => exact close_stands stands

/--
After any calls of a new episode, whatever was answered to them, the phase says that the episode has
failed just when it has, and a game that is played has started, is not over and has not refused keys.
Starting and stepping report that the episode is over just when it is not played after them, and a start
that does not has left the marker on the screen. An episode that is not played asks nothing when it is
to take a step, stays as it is in every respect, and reports with no reward that it is over.
-/
theorem phase_agrees (config : Config) (polls : Nat) (calls : List Call) :
    (callAll polls (create config) calls).Ensures fun episode =>
      (episode.failed = true ↔ episode.phase = .failed) ∧
      (episode.phase = .playing →
        episode.snapshot.started = true ∧ episode.snapshot.isFinished = false ∧
          episode.failed = false) ∧
      ((episode.reset polls).Ensures fun result =>
        (result.2 = true ↔ result.1.phase ≠ .playing) ∧
          (result.2 = false → result.1.screenShows startMarker = true)) ∧
      ∀ action,
        ((episode.step polls action).Ensures fun result =>
          result.2.done = true ↔ result.1.phase ≠ .playing) ∧
        (episode.phase ≠ .playing → episode.step polls action = pure (episode, ⟨0, true⟩)) := by
  have keeps (episode : Episode) (next : Call) (stands : episode.Stands) :=
    call_stands polls stands next
  refine (callAll_ensures keeps calls (stands_create config)).mono fun episode stands => ?_
  refine ⟨stands.failed_iff, fun playing => ?_, ?_, fun action => ⟨?_, fun ended => ?_⟩⟩
  · exact ⟨stands.started playing, stands.goesOn playing, stands.able playing⟩
  · exact (reset_stands polls episode).mono fun _ stood => stood.2
  · exact (step_ensures polls episode action).mono fun _ steps => (stands.step steps).2
  · exact step_of_not_playing ended polls action

end RoguePilot.Episode
