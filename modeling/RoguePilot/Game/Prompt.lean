import RoguePilot.Keys
import RoguePilot.Text.Search

/-!
# Blocking prompts

A prompt that is not answered stalls the game. This file lists the prompts that the pilot answers by
itself, the texts that give them away, and the answers.
-/

namespace RoguePilot

/-- A prompt that must be answered before the game goes on. -/
structure Prompt where
  /-- What the prompt is about. -/
  name : String
  /-- Texts of which any one gives the prompt away. -/
  markers : List String
  /-- The keys that answer it. -/
  reply : List UInt8
deriving DecidableEq, Repr

namespace Prompt

/-- The prompts in the order in which they are looked for. -/
def table : List Prompt :=
  [ { name := "more"
      markers := ["--more--"]
      reply := Keys.space },
    -- A long inscription could crash the game.
    { name := "inscription"
      markers := ["Inscribe with what?", "Replace inscription with what?"]
      reply := Keys.escape },
    { name := "empty drop"
      markers := ["Drop what? 0/52 slots"]
      reply := Keys.escape },
    { name := "stat increase"
      markers := ["Increase (S)trength, (I)ntelligence, or (D)exterity?"]
      reply := Keys.ofText "s" },
    { name := "leave"
      markers := ["Are you sure you want to leave the Dungeon?", "If you leave the dungeon now"]
      reply := Keys.ofText "y" },
    { name := "confirm with yes"
      markers := ["Confirm with \"yes\""]
      reply := Keys.ofText "yes\r" },
    { name := "yes/no"
      markers := ["(y/n)", "(Y/n)", "(y/N)"]
      reply := Keys.ofText "n" } ]

/-- The prompt is on display in the text. -/
def isIn (prompt : Prompt) (text : List Char) : Bool :=
  Text.occursAny (prompt.markers.map String.toList) text

/-- The first prompt of the table that is on display in the text. -/
def detect (text : List Char) : Option Prompt :=
  table.find? fun prompt => prompt.isIn text

end Prompt

end RoguePilot
