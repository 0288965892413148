import RoguePilot.Config.Basic
import RoguePilot.Game.Map
import RoguePilot.Game.Snapshot
import RoguePilot.Play.Request
import RoguePilot.Session

/-!
# Episodes

An episode is one game from its start to its end. This file holds what is remembered about it: the
session with the game while there is one, the last snapshot and map, the counters, and what deciding
about the next frame depends on.
-/

namespace RoguePilot

/-- Where an episode is in its life. -/
inductive Phase where
  /-- The dungeon has not appeared yet. -/
  | awaitingStart
  /-- The game takes actions. -/
  | playing
  /-- The game is over, or was given up. -/
  | finished
  /-- The game could not be started or reached; only a new one helps. -/
  | failed
deriving DecidableEq, Repr, Inhabited

/-- The counters of an episode. -/
structure Tally where
  /-- The number of the episode, counted from one. -/
  episode : Nat := 0
  /-- Steps taken. -/
  steps : Nat := 0
  /-- Frames that received output. -/
  frames : Nat := 0
  /-- The sum of the rewards of all steps. -/
  score : Int := 0
  /-- The longest redraw after an action of ordinary length, in nanoseconds. -/
  slowestRedraw : Nat := 0
  /-- The longest such redraw that was recognised as complete, in nanoseconds. -/
  slowestReady : Nat := 0
deriving DecidableEq, Repr, Inhabited

/-- What is remembered about an episode. -/
structure Episode where
  /-- The extent of the screen that games are started on. -/
  size : Size
  /-- The timing of frames and the limits of an episode. -/
  timing : TimingConfig
  /-- The answer to the choice of the first weapon. -/
  weaponKey : List UInt8
  /-- The session with the game, while there is one. -/
  session : Option Session := none
  /-- Where the episode is in its life. -/
  phase : Phase := .awaitingStart
  /-- The last snapshot. -/
  snapshot : Snapshot := {}
  /-- The map as of the last frame that showed the main screen. -/
  map : Map := .empty
  /-- The counters. -/
  tally : Tally := {}
  /-- Where the avatar was first seen in this episode. -/
  avatar : Option Position := none
  /-- The last frame ended because the redraw was recognised as complete. -/
  ready : Bool := false
  /-- The keys typed last. -/
  lastSent : List UInt8 := []
  /-- The game could not be started or reached. -/
  failed : Bool := false
  /-- Steps since time last passed in the game. -/
  stuckSteps : Nat := 0
deriving DecidableEq, Repr

namespace Episode

/-- Before the first game. -/
def create (config : Config) : Episode where
  size := config.terminal.size
  timing := config.timing
  weaponKey := config.game.weaponKey.toUTF8.toList

/-- The next episode before its game is started: nothing but its number depends on the one before. -/
def next (episode : Episode) : Episode where
  size := episode.size
  timing := episode.timing
  weaponKey := episode.weaponKey
  tally := { episode := episode.tally.episode + 1 }

/-- What is visible, if there is a session. -/
def screen? (episode : Episode) : Option Screen :=
  episode.session.map Session.screen

/-- The text of the screen; nothing without a session. -/
def screenText (episode : Episode) : List Char :=
  (episode.screen?.map Screen.text).getD []

/-- The game could not go on, or it is over. -/
def isOver (episode : Episode) : Bool :=
  episode.failed || episode.snapshot.isFinished

/-- Types keys, unless typing has failed before or there is no session. -/
def send (episode : Episode) (keys : List UInt8) : Play.Program Episode :=
  if episode.failed || episode.session.isNone then pure episode
  else do
    let accepted ← Play.write keys
    return { episode with lastSent := keys, failed := !accepted }

end Episode

end RoguePilot
