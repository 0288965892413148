import RoguePilot.Game.Snapshot
import RoguePilot.Text.Search

/-!
# Scoring

A reward compares two snapshots. Experience is worth its percentage of a level, the orb and the escape
are worth fixed amounts, and what the status panel cannot show is read from the output in between.
-/

namespace RoguePilot.Score

/-- Shown when the dungeon has been left. -/
def escapedMarker : String := "You have escaped"

/-- Shown when the character dies. -/
def deathMarker : String := "You die"

/-- Shown when the orb is picked up. -/
def orbMarker : String := "You pick up the Orb of Zot"

/-- The reward for a game that has started. -/
def startReward : Int := 1

/-- The reward for the orb. -/
def orbReward : Int := 10000

/-- The reward for an escape with the orb; an escape without it costs as much. -/
def escapeReward : Int := 1000000

/-- The marker occurs in the output. -/
def shows (output : List Char) (marker : String) : Bool :=
  Text.occurs marker.toList output

/-- Experience gained between two snapshots, a level counting as a hundred percent. -/
def experienceGain (previous current : Snapshot) : Int :=
  (current.experienceLevel - previous.experienceLevel) * 100 +
    (current.percentToNextLevel - previous.percentToNextLevel)

/-- Records how the game ended if the output tells, with the reward for it. -/
def ending (current : Snapshot) (output : List Char) : Snapshot × Int :=
  if shows output escapedMarker then
    if current.hasOrb then ({ current with won := true }, escapeReward)
    else ({ current with escapedWithoutOrb := true }, -escapeReward)
  else if shows output deathMarker then ({ current with died := true }, 0)
  else (current, 0)

/-- Records the orb if the output tells that it was picked up, with the reward for it. -/
def pickUp (current : Snapshot) (output : List Char) : Snapshot × Int :=
  if !current.hasOrb && shows output orbMarker then ({ current with hasOrb := true }, orbReward)
  else (current, 0)

/--
Scores the move from one snapshot to the next, given the output in between. Before the game has started
only its start counts; once it is over, only the way it ended does.
-/
def transition (previous current : Snapshot) (output : List Char) : Snapshot × Int :=
  if !previous.started then (current, if current.started then startReward else 0)
  else
    let ended := ending current output
    if ended.1.isFinished then ended
    else
      let collected := pickUp ended.1 output
      (collected.1, ended.2 + collected.2 + experienceGain previous collected.1)

end RoguePilot.Score
