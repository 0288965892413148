import Mathlib.Algebra.Ring.Int.Defs
import RoguePilot.Proofs.Game.Range

/-!
# Scoring with machine integers

The numbers of a snapshot are kept in thirty-two bits, rewards in sixty-four. Here a move is scored by
operations that fail when their result does not fit. As the numbers that are read off the panel are in
range, none of them ever fails.
-/

namespace RoguePilot

/-- The number if it fits into so many bits, one of them for its sign. -/
def signed? (bits : Nat) (number : Int) : Option Int :=
  if -2 ^ (bits - 1) ≤ number ∧ number < 2 ^ (bits - 1) then some number else none

theorem signed?_eq_some {bits : Nat} {number : Int} (above : -2 ^ (bits - 1) ≤ number)
    (below : number < 2 ^ (bits - 1)) : signed? bits number = some number :=
  if_pos ⟨above, below⟩

namespace Snapshot

variable {snapshot : Snapshot}

/-- The snapshot if all its numbers fit into thirty-two bits. -/
def signed? (snapshot : Snapshot) : Option Snapshot :=
  if snapshot.numbers.all fun number => (RoguePilot.signed? 32 number).isSome then some snapshot else none

theorem InRange.experienceLevel (here : snapshot.InRange) :
    0 ≤ snapshot.experienceLevel ∧ snapshot.experienceLevel ≤ 2147483647 :=
  here _ (by simp [numbers])

theorem InRange.percentToNextLevel (here : snapshot.InRange) :
    0 ≤ snapshot.percentToNextLevel ∧ snapshot.percentToNextLevel ≤ 2147483647 :=
  here _ (by simp [numbers])

theorem InRange.signed? (here : snapshot.InRange) : snapshot.signed? = some snapshot := by
  refine if_pos (List.all_eq_true.mpr fun number member => ?_)
  obtain ⟨nonneg, small⟩ := here number member
  simp only [StatusPanel.greatestNumber] at small
  rw [signed?_eq_some (by omega) (by omega)]
  rfl

end Snapshot

namespace Score

variable {previous current : Snapshot}

/-- The experience gained: differences in thirty-two bits, a hundredfold and a sum in sixty-four. -/
def experienceGain? (previous current : Snapshot) : Option Int := do
  let levels ← signed? 32 (current.experienceLevel - previous.experienceLevel)
  let percent ← signed? 32 (current.percentToNextLevel - previous.percentToNextLevel)
  let hundreds ← signed? 64 (levels * 100)
  signed? 64 (hundreds + percent)

/-- Scores a move, with rewards in sixty-four bits. -/
def transition? (previous current : Snapshot) (output : List Char) : Option (Snapshot × Int) :=
  if !previous.started then some (current, if current.started then startReward else 0)
  else
    let ended := ending current output
    if ended.1.isFinished then some ended
    else do
      let collected := pickUp ended.1 output
      let reward ← signed? 64 (ended.2 + collected.2)
      let gain ← experienceGain? previous collected.1
      return (collected.1, ← signed? 64 (reward + gain))

/-! ## Bounds -/

/-- The greatest gain of experience, from nothing to the greatest level and percentage. -/
def greatestGain : Int := 101 * 2147483647

theorem reward_pickUp_le (current : Snapshot) (output : List Char) :
    0 ≤ (pickUp current output).2 ∧ (pickUp current output).2 ≤ orbReward := by
  rw [reward_pickUp]
  split <;> decide

theorem inRange_pickUp (here : current.InRange) (output : List Char) : (pickUp current output).1.InRange := by
  obtain ⟨hasOrb, collected_eq, -⟩ := pickUp_eq_withFindings current output
  rw [collected_eq]
  exact here

theorem experienceGain_le (before : previous.InRange) (after : current.InRange) :
    -greatestGain ≤ experienceGain previous current ∧ experienceGain previous current ≤ greatestGain := by
  have level_before := before.experienceLevel
  have percent_before := before.percentToNextLevel
  have level_after := after.experienceLevel
  have percent_after := after.percentToNextLevel
  simp only [experienceGain, greatestGain]
  omega

theorem worth_le (before : previous.InRange) (after : current.InRange) :
    -greatestGain ≤ worth previous current ∧ worth previous current ≤ greatestGain + orbReward := by
  have gain_le := experienceGain_le before after
  simp only [worth, orbReward]
  split <;> omega

theorem Settles.reward_le {reward : Int} (settles : Settles current reward)
    (finished : current.isFinished = true) : -escapeReward ≤ reward ∧ reward ≤ escapeReward := by
  simp only [Snapshot.isFinished, Bool.or_eq_true] at finished
  rcases finished with (won | died) | escapedWithoutOrb
  · rw [settles.won won]
    decide
  · rw [settles.died died]
    decide
  · rw [settles.escapedWithoutOrb escapedWithoutOrb]
    decide

/-! ## Nothing overflows -/

theorem experienceGain?_eq (before : previous.InRange) (after : current.InRange) :
    experienceGain? previous current = some (experienceGain previous current) := by
  have level_before := before.experienceLevel
  have percent_before := before.percentToNextLevel
  have level_after := after.experienceLevel
  have percent_after := after.percentToNextLevel
  have levels_fit : signed? 32 (current.experienceLevel - previous.experienceLevel) = some _ :=
    signed?_eq_some (by omega) (by omega)
  have percent_fits : signed? 32 (current.percentToNextLevel - previous.percentToNextLevel) = some _ :=
    signed?_eq_some (by omega) (by omega)
  have hundreds_fit : signed? 64 ((current.experienceLevel - previous.experienceLevel) * 100) = some _ :=
    signed?_eq_some (by omega) (by omega)
  simp only [experienceGain?, levels_fit, percent_fits, hundreds_fit, Option.bind_eq_bind, Option.bind_some]
  exact signed?_eq_some (by omega) (by omega)

/-- Between snapshots whose numbers are in range a move is scored without overflow. -/
theorem transition?_eq (before : previous.InRange) (after : current.InRange) (output : List Char) :
    transition? previous current output = some (transition previous current output) := by
  unfold transition? transition
  split
  · rfl
  · dsimp only
    split
    · rfl
    · next continued =>
      rw [ending_of_goesOn (Bool.eq_false_iff.mpr continued)]
      have collected := inRange_pickUp after output
      have bonus_le := reward_pickUp_le current output
      have gain_le := experienceGain_le before collected
      simp only [orbReward, greatestGain] at bonus_le gain_le
      have bonus_fits : signed? 64 (0 + (pickUp current output).2) = some _ :=
        signed?_eq_some (by omega) (by omega)
      have total_fits : signed? 64
          (0 + (pickUp current output).2 + experienceGain previous (pickUp current output).1) = some _ :=
        signed?_eq_some (by omega) (by omega)
      simp only [bonus_fits, total_fits, experienceGain?_eq before collected, Option.bind_eq_bind,
        Option.bind_some, Option.pure_def]

end Score

end RoguePilot
