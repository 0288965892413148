import RoguePilot.Game.Score
import RoguePilot.Proofs.Game.StatusPanel

/-!
# What a reward is worth

While a game goes on, the reward of a move is what the later of its snapshots is worth over the
earlier one. Worth adds up along a sequence of snapshots in which the orb is never lost, so rewards
do, too. When a game ends, the reward of the last move depends on nothing but the way it ended.
-/

namespace RoguePilot.Score

variable {previous current : Snapshot} {output : List Char}

/-- What one snapshot is worth over an earlier one of the same game. -/
def worth (earlier later : Snapshot) : Int :=
  experienceGain earlier later + if later.hasOrb && !earlier.hasOrb then orbReward else 0

theorem worth_self (snapshot : Snapshot) : worth snapshot snapshot = 0 := by
  simp [worth, experienceGain]

/-- Worth adds up as long as the orb is kept. -/
theorem worth_add_worth {first second third : Snapshot}
    (kept : first.hasOrb = true → second.hasOrb = true)
    (kept_later : second.hasOrb = true → third.hasOrb = true) :
    worth first second + worth second third = worth first third := by
  simp only [worth, experienceGain]
  cases first_orb : first.hasOrb <;> cases second_orb : second.hasOrb <;>
    cases third_orb : third.hasOrb <;> simp_all <;> omega

/-! ## Findings of a move -/

theorem ending_eq_withFindings (current : Snapshot) (output : List Char) :
    ∃ won died escapedWithoutOrb, (ending current output).1 =
      current.withFindings won died escapedWithoutOrb current.hasOrb := by
  unfold ending
  split
  · split
    · exact ⟨true, current.died, current.escapedWithoutOrb, rfl⟩
    · exact ⟨current.won, current.died, true, rfl⟩
  · split
    · exact ⟨current.won, true, current.escapedWithoutOrb, rfl⟩
    · exact ⟨current.won, current.died, current.escapedWithoutOrb, rfl⟩

theorem pickUp_eq_withFindings (current : Snapshot) (output : List Char) :
    ∃ hasOrb, (pickUp current output).1 =
      current.withFindings current.won current.died current.escapedWithoutOrb hasOrb ∧
        (current.hasOrb = true → hasOrb = true) := by
  unfold pickUp
  split
  · exact ⟨true, rfl, fun _ => rfl⟩
  · exact ⟨current.hasOrb, rfl, id⟩

/-- Scoring a move changes nothing of the snapshot but its findings, and the orb is never lost. -/
theorem transition_eq_withFindings (previous current : Snapshot) (output : List Char) :
    ∃ won died escapedWithoutOrb hasOrb, (transition previous current output).1 =
      current.withFindings won died escapedWithoutOrb hasOrb ∧
        (current.hasOrb = true → hasOrb = true) := by
  unfold transition
  split
  · exact ⟨_, _, _, _, rfl, id⟩
  · obtain ⟨won, died, escapedWithoutOrb, ended_eq⟩ := ending_eq_withFindings current output
    simp only
    split
    · exact ⟨won, died, escapedWithoutOrb, current.hasOrb, ended_eq, id⟩
    · rw [ended_eq]
      obtain ⟨hasOrb, collected_eq, kept⟩ := pickUp_eq_withFindings
        (current.withFindings won died escapedWithoutOrb current.hasOrb) output
      exact ⟨won, died, escapedWithoutOrb, hasOrb, collected_eq, kept⟩

/-! ## The reward of a move -/

/-- The reward of a move that ends the game depends on the way it ends only. -/
structure Settles (ended : Snapshot) (reward : Int) : Prop where
  /-- An escape with the orb pays. -/
  won : ended.won = true → reward = escapeReward
  /-- An escape without it costs as much. -/
  escapedWithoutOrb : ended.escapedWithoutOrb = true → reward = -escapeReward
  /-- Death pays nothing. -/
  died : ended.died = true → reward = 0

theorem settles_ending (goesOn : current.isFinished = false) (output : List Char) :
    (ending current output).1.isFinished = true →
      Settles (ending current output).1 (ending current output).2 := by
  simp only [Snapshot.isFinished, Bool.or_eq_false_iff] at goesOn
  obtain ⟨⟨not_won, not_died⟩, not_escaped⟩ := goesOn
  intro finished
  unfold ending at finished ⊢
  split
  · split
    · constructor <;> simp [not_died, not_escaped]
    · constructor <;> simp [not_won, not_died]
  · split
    · constructor <;> simp [not_won, not_escaped]
    · simp_all [Snapshot.isFinished]

theorem ending_of_goesOn (goesOn : (ending current output).1.isFinished = false) :
    ending current output = (current, 0) := by
  unfold ending at goesOn ⊢
  split
  · split <;> simp_all [Snapshot.isFinished]
  · split <;> simp_all [Snapshot.isFinished]

theorem reward_pickUp (current : Snapshot) (output : List Char) :
    (pickUp current output).2 =
      if (pickUp current output).1.hasOrb && !current.hasOrb then orbReward else 0 := by
  unfold pickUp
  split
  · next found =>
    simp only [Bool.and_eq_true] at found
    simp [found.1]
  · simp

/-- A move of a started game that ends it is rewarded for the way it ends. -/
theorem transition_settles (started : previous.started = true)
    (goesOn : current.isFinished = false)
    (finished : (transition previous current output).1.isFinished = true) :
    Settles (transition previous current output).1 (transition previous current output).2 := by
  simp only [transition, started, Bool.not_true, Bool.false_eq_true, if_false] at finished ⊢
  split at finished
  · next ended =>
    rw [if_pos ended]
    exact settles_ending goesOn output ended
  · next continued =>
    -- Picking up the orb ends no game.
    rw [ending_of_goesOn (Bool.eq_false_iff.mpr continued)] at finished
    obtain ⟨hasOrb, collected_eq, -⟩ := pickUp_eq_withFindings current output
    rw [collected_eq] at finished
    exact absurd finished (Bool.eq_false_iff.mp goesOn)

/-- A move of a started game that goes on is rewarded for what the next snapshot is worth. -/
theorem transition_worth (started : previous.started = true)
    (orb_eq : current.hasOrb = previous.hasOrb)
    (goesOn : (transition previous current output).1.isFinished = false) :
    (transition previous current output).2 =
      worth previous (transition previous current output).1 := by
  simp only [transition, started, Bool.not_true, Bool.false_eq_true, if_false] at goesOn ⊢
  split at goesOn
  · next ended => exact absurd ended (Bool.eq_false_iff.mp goesOn)
  · next continued =>
    rw [if_neg continued, ending_of_goesOn (Bool.eq_false_iff.mpr continued)]
    simp only [reward_pickUp, orb_eq, worth]
    omega

/-- What the move from one snapshot of a started game to the next is rewarded with. -/
structure Moves (before after : Snapshot) (reward : Int) : Prop where
  /-- The game has still started. -/
  started : after.started = true
  /-- The orb is kept. -/
  orb_kept : before.hasOrb = true → after.hasOrb = true
  /-- If the game goes on, the reward is what the later snapshot is worth. -/
  worth_eq : after.isFinished = false → reward = worth before after
  /-- If it ends, the reward is for the way it ends. -/
  settles : after.isFinished = true → Settles after reward

/-- A snapshot that stays the same is worth nothing. -/
theorem moves_refl (started : previous.started = true) (goesOn : previous.isFinished = false) :
    Moves previous previous 0 where
  started := started
  orb_kept := id
  worth_eq _ := (worth_self previous).symm
  settles finished := by
    rw [goesOn] at finished
    contradiction

theorem transition_moves (started : previous.started = true) (goesOn : previous.isFinished = false)
    (screen : Screen) (output : List Char) :
    Moves previous (transition previous (StatusPanel.snapshot screen previous) output).1
      (transition previous (StatusPanel.snapshot screen previous) output).2 := by
  have orb_eq := StatusPanel.hasOrb_snapshot screen previous
  obtain ⟨won, died, escapedWithoutOrb, hasOrb, scored_eq, kept⟩ :=
    transition_eq_withFindings previous (StatusPanel.snapshot screen previous) output
  constructor
  · rw [scored_eq]
    exact StatusPanel.started_snapshot started
  · intro carried
    rw [scored_eq]
    exact kept (orb_eq.trans carried)
  · exact transition_worth started orb_eq
  · have goesOn_snapshot := (StatusPanel.isFinished_snapshot screen previous).trans goesOn
    exact transition_settles started goesOn_snapshot

end RoguePilot.Score
