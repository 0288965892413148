import RoguePilot.Play.Frame

/-!
# Playing an episode

Three things can be done with an episode: start the next game, take a step, and close it. Starting waits
until the dungeon has appeared, choosing the first weapon on the way. A step types one action and reads
one frame. Closing quits the game and stops it. The argument `polls` bounds how often a frame may ask for
output.
-/

namespace RoguePilot.Episode

/-- Shown once the dungeon has been made. -/
def startMarker : String := "Found a staircase leading out of the dungeon"

/-- Shown with the choice of the first weapon. -/
def weaponMarker : String := "You have a choice of weapons"

/-- The keys that quit the game from wherever it is. -/
def quitKeys : List UInt8 :=
  Keys.escape ++ Keys.escape ++ Keys.escape ++ Keys.controlQ ++ Keys.ofText "yes" ++
    Keys.escape ++ Keys.escape ++ Keys.escape

/-- The marker is on the screen. -/
def screenShows (episode : Episode) (marker : String) : Bool :=
  Text.occurs marker.toList episode.screenText

/-- Quits the game, unless typing has failed, and stops it. Without a session nothing happens. -/
def close (episode : Episode) : Play.Program Episode :=
  if episode.session.isNone then pure episode
  else do
    let running ← Play.isRunning
    if running && !episode.failed then
      let _ ← Play.write quitKeys
    Play.terminate episode.timing.quitGrace
    return { episode with session := none }

/-- The dungeon has appeared and the status panel has been read. -/
def hasBegun (episode : Episode) : Bool :=
  episode.screenShows startMarker && episode.snapshot.started

/--
Reads frames until the dungeon has appeared, `attempts` at most, and tells whether it has. The first
weapon is chosen once.
-/
def awaitStart (polls : Nat) :
    (attempts : Nat) → (weaponChosen : Bool) → Episode → Play.Program (Episode × Bool)
  | 0, _, episode => pure (episode, false)
  | attempts + 1, weaponChosen, episode => do
    let (after, _) ← episode.advance polls
    if after.failed then return (after, false)
    else if after.hasBegun then return (after, true)
    else if !weaponChosen && after.screenShows weaponMarker then
      let chosen ← after.send after.weaponKey
      awaitStart polls attempts true chosen
    else awaitStart polls attempts weaponChosen after

/-- The phase that the state of the episode calls for when it goes on or ends. -/
def settledPhase (episode : Episode) : Phase :=
  if episode.failed then .failed
  else if episode.snapshot.isFinished then .finished
  else .playing

/-- Starts the next game, after closing the last one, and tells whether it is already over. -/
def reset (polls : Nat) (episode : Episode) : Play.Program (Episode × Bool) := do
  let closed ← episode.close
  let fresh := closed.next
  let launched ← Play.launch fresh.size
  if launched then
    let opened := { fresh with session := some (.start fresh.size) }
    let (waited, begun) ← awaitStart polls opened.timing.startAttempts false opened
    let judged := { waited with failed := waited.failed || !begun }
    return ({ judged with phase := judged.settledPhase }, judged.isOver)
  else
    return ({ fresh with failed := true, phase := .failed }, true)

/-- What a step yields besides the episode. -/
structure Outcome where
  /-- The reward of the step. -/
  reward : Int
  /-- The episode is over. -/
  done : Bool
deriving DecidableEq, Repr

/-- Counts a step that is about to be taken. -/
def countStep (episode : Episode) : Episode :=
  { episode with tally := { episode.tally with steps := episode.tally.steps + 1 } }

/-- Counts the steps since time last passed in the game, given the time before this one. -/
def countStuck (episode : Episode) (before : Binary64) : Episode :=
  { episode with
    stuckSteps := if episode.snapshot.gameTime = before then episode.stuckSteps + 1 else 0 }

/-- Adds a reward to the score. -/
def addReward (episode : Episode) (reward : Int) : Episode :=
  { episode with tally := { episode.tally with score := episode.tally.score + reward } }

/-- The episode is over after a step: it is over by itself, or it is given up. -/
def endsAfterStep (episode : Episode) : Bool :=
  episode.isOver || episode.timing.stuckStepLimit ≤ episode.stuckSteps

/-- The episode after a step, with the phase it is in now. -/
def concludeStep (episode : Episode) : Episode :=
  { episode with
    phase :=
      if episode.failed then .failed
      else if episode.endsAfterStep then .finished
      else episode.phase }

/-- Types one action and waits for the game to react. An episode that is not being played stays as it is. -/
def step (polls : Nat) (episode : Episode) (action : List UInt8) :
    Play.Program (Episode × Outcome) :=
  if episode.failed || episode.phase ≠ .playing then pure (episode, ⟨0, true⟩)
  else do
    let sent ← episode.countStep.send action
    let (after, reward) ← if sent.failed then pure (sent, 0) else sent.advance polls
    let scored := (after.countStuck episode.snapshot.gameTime).addReward reward
    return (scored.concludeStep, ⟨reward, scored.endsAfterStep⟩)

end RoguePilot.Episode
