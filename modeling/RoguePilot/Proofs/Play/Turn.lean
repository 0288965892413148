import RoguePilot.Play.Turn
import RoguePilot.Proofs.Play.Frame

/-!
# What can be done with an episode

Each of the three calls is described once by what it can make of an episode: closing takes the
session away, starting opens a new one and advances it frame by frame until it is judged, and a step
is idle or advances by at most one frame. A property that a new session has and that advancing and
the bookkeeping of a step keep therefore holds after any calls.
-/

namespace RoguePilot.Episode

open Dialogue

/-! ## Closing -/

theorem close_ensures (episode : Episode) :
    episode.close.Ensures fun closed => closed = { episode with session := none } := by
  unfold close
  split
  · next absent =>
    have session_eq : episode.session = none := Option.isNone_iff_eq_none.mp absent
    change episode = _
    rw [← session_eq]
  · rw [ensures_bind, Play.ensures_isRunning]
    intro running
    split
    · rw [ensures_bind, ensures_bind, Play.ensures_write]
      intro _ _
      rfl
    · rw [ensures_bind]
      intro _
      rfl

/-! ## Starting -/

/-- Typing leaves the play and the screen alone. -/
theorem send_reads (episode : Episode) (keys : List UInt8) :
    (episode.send keys).Ensures fun sent =>
      OnlyReads episode sent ∧ sent.session = episode.session := by
  refine send_ensures _ ⟨.refl episode, rfl⟩ ?_
  intro able accepted
  refine ⟨⟨rfl, rfl, ?_, id⟩, rfl⟩
  intro failed
  rw [able] at failed
  contradiction

/-- The property is kept when an episode advances by a frame. -/
def AdvancingKeeps (property : Episode → Prop) : Prop :=
  ∀ before result, property before → Advances before result → property result.1

theorem awaitStart_ensures {property : Episode → Prop} (keeps : AdvancingKeeps property)
    (polls attempts : Nat) (weaponChosen : Bool) {episode : Episode} (here : property episode) :
    (awaitStart polls attempts weaponChosen episode).Ensures fun result =>
      property result.1 ∧ (result.2 = true → result.1.hasBegun = true) := by
  induction attempts generalizing weaponChosen episode with
  | zero => exact ⟨here, fun begun => nomatch begun⟩
  | succ attempts induction =>
      rw [awaitStart, ensures_bind]
      refine (advance_ensures polls episode).mono ?_
      rintro ⟨after, reward⟩ advances
      have there := keeps _ _ here advances
      dsimp only
      split
      · exact ⟨there, fun begun => nomatch begun⟩
      · split
        · next begun => exact ⟨there, fun _ => begun⟩
        · split
          · rw [ensures_bind]
            refine (send_reads after after.weaponKey).mono ?_
            intro chosen reads
            exact induction true (keeps _ _ there (.silent reads.1 reads.2))
          · exact induction weaponChosen there

/-- The episode once it is decided whether the game has begun. -/
def judge (episode : Episode) (begun : Bool) : Episode :=
  let judged := { episode with failed := episode.failed || !begun }
  { judged with phase := judged.settledPhase }

/-- The next episode with a session that has just been started. -/
def opened (episode : Episode) : Episode :=
  { episode.next with session := some (.start episode.size) }

/-- What starting the next game can make of an episode. -/
inductive Restarts (property : Episode → Prop) : Episode → Prop where
  /-- The game could not be started. -/
  | refused {episode : Episode} (session_eq : episode.session = none)
    (phase_eq : episode.phase = .failed) : Restarts property episode
  /-- The game was started and judged. -/
  | judged {episode : Episode} {begun : Bool} (here : property episode)
    (hasBegun : begun = true → episode.hasBegun = true) : Restarts property (episode.judge begun)

theorem reset_ensures {property : Episode → Prop} (keeps : AdvancingKeeps property)
    (opens : ∀ episode : Episode, property episode.opened) (polls : Nat) (episode : Episode) :
    (episode.reset polls).Ensures fun result => Restarts property result.1 := by
  rw [reset, ensures_bind]
  refine (close_ensures episode).mono ?_
  rintro closed -
  rw [ensures_bind, Play.ensures_launch]
  intro launched
  split
  · rw [ensures_bind]
    refine (awaitStart_ensures keeps polls _ false (opens closed)).mono ?_
    rintro ⟨waited, begun⟩ ⟨there, hasBegun⟩
    exact .judged there hasBegun
  · exact .refused rfl rfl

/-! ## Stepping -/

/-- The episode after a step that advanced it, before its phase is decided. -/
def settleStep (before after : Episode) (reward : Int) : Episode :=
  (after.countStuck before.snapshot.gameTime).addReward reward

/-- What a step can make of an episode, with its outcome. -/
inductive Steps (before : Episode) : Episode × Outcome → Prop where
  /-- The episode is not being played. -/
  | idle (ended : before.failed = true ∨ before.phase ≠ .playing) : Steps before (before, ⟨0, true⟩)
  /-- The step is counted, and the episode advances. -/
  | acted {after : Episode} {reward : Int} (able : before.failed = false)
    (playing : before.phase = .playing) (advances : Advances before.countStep (after, reward)) :
    Steps before
      ((before.settleStep after reward).concludeStep,
        ⟨reward, (before.settleStep after reward).endsAfterStep⟩)

theorem step_ensures (polls : Nat) (episode : Episode) (action : List UInt8) :
    (episode.step polls action).Ensures (Steps episode) := by
  unfold step
  split
  · next ended =>
    simp only [Bool.or_eq_true, decide_eq_true_eq] at ended
    exact .idle ended
  · next going =>
    simp only [Bool.or_eq_true, decide_eq_true_eq, not_or, Bool.not_eq_true,
      ne_eq, Decidable.not_not] at going
    obtain ⟨able, playing⟩ := going
    rw [ensures_bind]
    refine (send_reads episode.countStep action).mono ?_
    rintro sent ⟨reads, session_eq⟩
    dsimp only
    split
    · exact .acted able playing (.silent reads session_eq)
    · rw [ensures_bind]
      refine (advance_ensures polls sent).mono ?_
      rintro ⟨after, reward⟩ advances
      exact .acted able playing (advances.after_reading reads session_eq)

/-! ## Any calls -/

/-- Something to be done with an episode. -/
inductive Call where
  /-- Start the next game. -/
  | reset
  /-- Type an action. -/
  | step (action : List UInt8)
  /-- Close the episode. -/
  | close
deriving DecidableEq, Repr

/-- The episode after a call. -/
def call (polls : Nat) (episode : Episode) : Call → Play.Program Episode
  | .reset => do return (← episode.reset polls).1
  | .step action => do return (← episode.step polls action).1
  | .close => episode.close

/-- The episode after calls made in order. -/
def callAll (polls : Nat) (episode : Episode) : List Call → Play.Program Episode
  | [] => pure episode
  | next :: later => do callAll polls (← episode.call polls next) later

theorem callAll_ensures {property : Episode → Prop} {polls : Nat}
    (keeps : ∀ episode next, property episode → (call polls episode next).Ensures property)
    (calls : List Call) {episode : Episode} (here : property episode) :
    (callAll polls episode calls).Ensures property := by
  induction calls generalizing episode with
  | nil => exact here
  | cons next later induction =>
      rw [callAll, ensures_bind]
      refine (keeps episode next here).mono ?_
      intro after there
      exact induction there

end RoguePilot.Episode
