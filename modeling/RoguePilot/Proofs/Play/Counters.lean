import RoguePilot.Proofs.Play.CleanSlate

/-!
# The counters of an episode

The longest redraw and the longest complete one are counted side by side, from the first step on and
only with frames that had output. Nothing else touches them, and a new game counts from nothing.
-/

namespace RoguePilot.Episode

open Dialogue

theorem advancingKeeps_timesRedraws :
    AdvancingKeeps fun episode => episode.tally.TimesRedraws := by
  intro before result times advances
  cases advances with
  | silent reads => exact reads.times_of_times times
  | evaluated reads frame =>
      rw [tally_takeSnapshot]
      exact reads.times_of_times times

/-- A counted step only makes room for redraws to be timed. -/
theorem timesRedraws_countStep {episode : Episode} (times : episode.tally.TimesRedraws) :
    episode.countStep.tally.TimesRedraws :=
  ⟨fun none_taken => absurd none_taken (Nat.succ_ne_zero _), times.redraw_of_frames,
    times.ready_le_redraw⟩

theorem call_timesRedraws (polls : Nat) {episode : Episode} (times : episode.tally.TimesRedraws)
    (next : Call) : (call polls episode next).Ensures fun after => after.tally.TimesRedraws := by
  cases next with
  | reset =>
      have fresh : episode.next.tally.TimesRedraws := Tally.timesRedraws_of_number _
      rw [call, ensures_bind]
      exact reset_ensures_of_judge advancingKeeps_timesRedraws polls episode fresh fresh
        fun _ _ there _ => there
  | step action =>
      rw [call, ensures_bind]
      refine (step_ensures polls episode action).mono ?_
      rintro _ (ended | ⟨able, playing, advances⟩)
      · exact times
      · have there := advancingKeeps_timesRedraws _ _ (timesRedraws_countStep times) advances
        exact ⟨there.redraw_of_steps, there.redraw_of_frames, there.ready_le_redraw⟩
  | close =>
      refine (close_ensures episode).mono ?_
      rintro closed rfl
      exact times

/--
Whatever the outside answers, after any calls of a new episode no complete redraw was slower than the
slowest redraw, and none was timed before the first step or without a frame that had output.
-/
theorem redraws_timed_after_steps (config : Config) (polls : Nat) (calls : List Call) :
    (callAll polls (create config) calls).Ensures fun episode =>
      episode.tally.slowestReady ≤ episode.tally.slowestRedraw ∧
        (episode.tally.steps = 0 ∨ episode.tally.frames = 0 → episode.tally.slowestRedraw = 0) := by
  refine (callAll_ensures (fun _ next here => call_timesRedraws polls here next) calls
    (Tally.timesRedraws_of_number 0)).mono ?_
  intro episode times
  exact ⟨times.ready_le_redraw, fun none => none.elim times.redraw_of_steps times.redraw_of_frames⟩

end RoguePilot.Episode
