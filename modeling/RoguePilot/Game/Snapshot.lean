import RoguePilot.Number.Binary64

/-!
# Snapshots of the game

A snapshot is everything known about the game after one redraw: what the status panel showed last, and
how the game ended, if it has. A new snapshot is made for every frame, and rewards compare two of them.
-/

namespace RoguePilot

/-- Everything known about the game at one moment. -/
structure Snapshot where
  /-- The status panel was visible on the last frame. -/
  onMainScreen : Bool := false
  /-- A maximum health other than zero has been seen. -/
  started : Bool := false
  /-- The character escaped with the orb. -/
  won : Bool := false
  /-- The character died. -/
  died : Bool := false
  /-- The character left the dungeon without the orb. -/
  escapedWithoutOrb : Bool := false
  /-- The character carries the orb. -/
  hasOrb : Bool := false
  /-- Health. -/
  health : Int := 0
  /-- The greatest health. -/
  maxHealth : Int := 0
  /-- Magic. -/
  magic : Int := 0
  /-- The greatest magic. -/
  maxMagic : Int := 0
  /-- Protection by armour. -/
  armourClass : Int := 0
  /-- Skill in dodging. -/
  evasion : Int := 0
  /-- Protection by a shield. -/
  shielding : Int := 0
  /-- Strength. -/
  strength : Int := 0
  /-- Intelligence. -/
  intelligence : Int := 0
  /-- Dexterity. -/
  dexterity : Int := 0
  /-- The experience level. -/
  experienceLevel : Int := 0
  /-- The way to the next level, in percent. -/
  percentToNextLevel : Int := 0
  /-- The length of the noise bar. -/
  noiseLevel : Int := 0
  /-- Where the character is. -/
  place : String := ""
  /-- The time that has passed in the game. -/
  gameTime : Binary64 := .zero
deriving DecidableEq, Repr, Inhabited

/-- The game is over: it was won, the character died, or the dungeon was left without the orb. -/
def Snapshot.isFinished (snapshot : Snapshot) : Bool :=
  snapshot.won || snapshot.died || snapshot.escapedWithoutOrb

end RoguePilot
