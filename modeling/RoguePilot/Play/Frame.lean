import RoguePilot.Game.Prompt
import RoguePilot.Game.Score
import RoguePilot.Game.StatusPanel
import RoguePilot.Game.View
import RoguePilot.Play.Episode

/-!
# Frames

The game never says that it is done drawing. A frame is the output between one input and the moment the
redraw is taken to be complete: the output parks the cursor on the avatar, or the footer of a known view
has been drawn, or nothing has arrived for a while, or the frame has lasted too long. Prompts that would
block the game are answered on the way.
-/

namespace RoguePilot

/-- The output of a frame so far. -/
structure Frame where
  /-- The text, with control sequences. -/
  text : List Char := []
  /-- Some output has arrived. -/
  hasOutput : Bool := false
  /-- The time from the start of the frame to its last output, in nanoseconds. -/
  redrawTime : Nat := 0
  /-- The redraw was recognised as complete. -/
  ready : Bool := false
deriving DecidableEq, Repr, Inhabited

/-- The frame with one more chunk, which arrived after the given time. -/
def Frame.add (frame : Frame) (chunk : List Char) (elapsed : Nat) : Frame :=
  { frame with text := frame.text ++ chunk, hasOutput := true, redrawTime := elapsed }

/-- How long a frame is read. -/
structure FrameLimits where
  /-- The longest wait for one chunk, in milliseconds. -/
  pause : Nat
  /-- A frame without output after this time is over, in nanoseconds. -/
  quiet : Nat
  /-- A frame with output after this time is over, in nanoseconds. -/
  total : Nat
deriving DecidableEq, Repr

namespace Episode

/-- The glyph the avatar is drawn with. -/
def avatarGlyph : Char := '@'

/-- Nanoseconds in a millisecond. -/
def millisecond : Nat := 1000000

/-- The control sequence that moves the cursor to a place. -/
def parkSequence (place : Position) : List Char :=
  "\x1b[".toList ++ Numeral.decimal (place.row + 1) ++ ';' ::
    Numeral.decimal (place.column + 1) ++ ['H']

/--
The output ends by moving the cursor to the place, and there it is. That the cursor passes over the place
while printing does not count.
-/
def isParked (session : Session) (text : List Char) (place : Position) : Bool :=
  session.isIdle && session.cursor = place &&
    Text.endsWith (parkSequence place) (Text.trimEnd '\n' text)

/-- Looks for the avatar, unless it was found earlier in the episode. -/
def locateAvatar (episode : Episode) (screen : Screen) : Episode :=
  match episode.avatar with
  | some _ => episode
  | none => { episode with avatar := screen.find? avatarGlyph }

/-- The redraw is complete as far as the text of its frame tells. -/
def isRedrawn (episode : Episode) (session : Session) (text : List Char) : Bool :=
  (match episode.avatar with
    | some place => isParked session text place
    | none => false) || View.isComplete text

/-- The keys typed last may take long to draw. -/
def isLongRunning (episode : Episode) : Bool :=
  episode.snapshot.onMainScreen && episode.ready &&
    episode.timing.isLongRunning episode.lastSent

/-- The limits of the next frame. -/
def frameLimits (episode : Episode) : FrameLimits where
  pause := episode.timing.pollInterval
  quiet :=
    (if episode.isLongRunning then episode.timing.longRunningTimeout
      else episode.timing.readTimeout) * millisecond
  total := episode.timing.frameLimit * millisecond

/--
Reads output until the frame is over, asking for output `polls` times at most. `begun` is the clock at the
start of the frame.
-/
def readOutput (limits : FrameLimits) (begun : Nat) :
    (polls : Nat) → Episode → Frame → Play.Program (Episode × Frame)
  | 0, _, _ => .unfinished
  | polls + 1, episode, frame =>
    match episode.session with
    | none => pure (episode, frame)
    | some session => do
      let reading ← Play.poll limits.pause
      let elapsed := reading.clock - begun
      match reading.chunk with
      | none =>
        if limits.quiet ≤ elapsed then return (episode, frame)
        else readOutput limits begun polls episode frame
      | some chunk =>
        let received := session.receive chunk
        let longer := frame.add received.2 elapsed
        let drawn := { episode with session := some received.1 }
        match Prompt.detect received.2 with
        | some prompt =>
          let answered ← drawn.send prompt.reply
          if limits.total ≤ elapsed then return (answered, longer)
          else readOutput limits begun polls answered longer
        | none =>
          let located := drawn.locateAvatar received.1.screen
          if located.isRedrawn received.1 longer.text then
            return (located, { longer with ready := true })
          else if limits.total ≤ elapsed then return (located, longer)
          else readOutput limits begun polls located longer

/-- Counts a frame with output. Redraws before the first step and long-running ones are not timed. -/
def countFrame (episode : Episode) (longRunning : Bool) (frame : Frame) : Episode :=
  let timed := 1 ≤ episode.tally.steps && !longRunning
  { episode with
    tally :=
      { episode.tally with
        frames := episode.tally.frames + 1
        slowestRedraw :=
          if timed then max episode.tally.slowestRedraw frame.redrawTime
          else episode.tally.slowestRedraw
        slowestReady :=
          if timed && frame.ready then max episode.tally.slowestReady frame.redrawTime
          else episode.tally.slowestReady } }

/-- Reads a frame; there is none if nothing arrived at all. -/
def readFrame (polls : Nat) (episode : Episode) : Play.Program (Episode × Option Frame) := do
  let begun ← Play.clock
  let (after, frame) ← readOutput episode.frameLimits begun polls episode {}
  let ended := { after with ready := frame.ready }
  if frame.hasOutput then return (ended.countFrame episode.isLongRunning frame, some frame)
  else return (ended, none)

/-- Takes the snapshot and the map after a frame and scores it. -/
def takeSnapshot (episode : Episode) (frame : Frame) : Episode × Int :=
  match episode.session with
  | none => (episode, 0)
  | some session =>
    let current := StatusPanel.snapshot session.screen episode.snapshot
    let scored := Score.transition episode.snapshot current frame.text
    ({ episode with
        snapshot := scored.1
        map := if current.onMainScreen then .ofScreen session.screen else episode.map },
      scored.2)

/-- Reads a frame and takes the snapshot after it, with its reward; without output there is none. -/
def advance (polls : Nat) (episode : Episode) : Play.Program (Episode × Int) := do
  let (after, frame?) ← readFrame polls episode
  match frame? with
  | some frame => return after.takeSnapshot frame
  | none => return (after, 0)

end Episode

end RoguePilot
