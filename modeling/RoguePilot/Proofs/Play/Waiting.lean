import RoguePilot.Play.Frame
import RoguePilot.Proofs.Dialogue

/-!
# Waiting for output

Reading a frame is waiting for output, again and again. A wait brings nothing, or a chunk that shows a
prompt, or one that shows none, after which the redraw may be complete. Everything about frames is said
of one wait first, and only then of all the waits of a frame.
-/

namespace RoguePilot

open Dialogue

/-- The frame with a chunk that came so long after its start. -/
def Frame.hearing (frame : Frame) (session : Session) (chunk : List UInt8) (elapsed : Nat) : Frame :=
  frame.add (session.receive chunk).2 elapsed

namespace Episode

variable {limits : FrameLimits} {begun polls : Nat} {episode : Episode} {session : Session}
  {frame : Frame}

/-! ## One wait -/

/-- What one wait for output comes to. -/
structure Waited where
  /-- The episode after it. -/
  episode : Episode
  /-- The frame so far. -/
  frame : Frame
  /-- The frame is over. -/
  isOver : Bool

/-- The episode with a chunk received. -/
def hearing (episode : Episode) (session : Session) (chunk : List UInt8) : Episode :=
  { episode with session := some (session.receive chunk).1 }

/-- The episode with a chunk received and the avatar looked for on the screen after it. -/
def seeing (episode : Episode) (session : Session) (chunk : List UInt8) : Episode :=
  (episode.hearing session chunk).locateAvatar (session.receive chunk).1.screen

theorem session_locateAvatar (episode : Episode) (screen : Screen) :
    (episode.locateAvatar screen).session = episode.session := by
  unfold locateAvatar
  split <;> rfl

theorem failed_locateAvatar (episode : Episode) (screen : Screen) :
    (episode.locateAvatar screen).failed = episode.failed := by
  unfold locateAvatar
  split <;> rfl

theorem snapshot_locateAvatar (episode : Episode) (screen : Screen) :
    (episode.locateAvatar screen).snapshot = episode.snapshot := by
  unfold locateAvatar
  split <;> rfl

theorem session_seeing (episode : Episode) (session : Session) (chunk : List UInt8) :
    (episode.seeing session chunk).session = some (session.receive chunk).1 :=
  session_locateAvatar _ _

theorem failed_seeing (episode : Episode) (session : Session) (chunk : List UInt8) :
    (episode.seeing session chunk).failed = episode.failed :=
  failed_locateAvatar _ _

/-- What comes of a chunk without a prompt. -/
def drawing (limits : FrameLimits) (elapsed : Nat) (session : Session) (chunk : List UInt8)
    (episode : Episode) (frame : Frame) : Waited :=
  let located := episode.seeing session chunk
  let longer := frame.hearing session chunk elapsed
  let redrawn := located.isRedrawn (session.receive chunk).1 longer.text
  { episode := located
    frame := { longer with ready := longer.ready || redrawn }
    isOver := redrawn || decide (limits.total ≤ elapsed) }

/-- Waits for output once, and deals with what it brings. -/
def wait (limits : FrameLimits) (begun : Nat) (session : Session) (episode : Episode) (frame : Frame) :
    Play.Program Waited := do
  let reading ← Play.poll limits.pause
  let elapsed := reading.clock - begun
  match reading.chunk with
  | none => return ⟨episode, frame, limits.quiet ≤ elapsed⟩
  | some chunk =>
    match Prompt.detect (session.receive chunk).2 with
    | some prompt =>
      let answered ← (episode.hearing session chunk).send prompt.reply
      return ⟨answered, frame.hearing session chunk elapsed, limits.total ≤ elapsed⟩
    | none => return drawing limits elapsed session chunk episode frame

/-- Reading output is waiting once, and going on unless the frame is over. -/
theorem readOutput_eq_wait (present : episode.session = some session) :
    readOutput limits begun (polls + 1) episode frame =
      wait limits begun session episode frame >>= fun waited =>
        if waited.isOver then pure (waited.episode, waited.frame)
        else readOutput limits begun polls waited.episode waited.frame := by
  simp only [readOutput, present, wait, Dialogue.bind_assoc]
  refine bind_congr fun reading => ?_
  cases reading.chunk with
  | none => simp
  | some chunk =>
      cases shown : Prompt.detect (session.receive chunk).2 with
      | some prompt => simp [hearing, Frame.hearing, shown]
      | none =>
          simp only [drawing, seeing, hearing, Frame.hearing, shown, pure_bind]
          split
          · next complete => simp [complete]
          · next unfinished =>
            rw [Bool.not_eq_true] at unfinished
            simp [unfinished]

/-- Without a session there is nothing to wait for. -/
theorem readOutput_absent (absent : episode.session = none) :
    readOutput limits begun (polls + 1) episode frame = pure (episode, frame) := by
  simp only [readOutput, absent]

/-! ## The end of a frame -/

/-- What is left of a frame when it is over: the frame, if there was output, and the episode, counted. -/
def closing (before after : Episode) (frame : Frame) : Episode × Option Frame :=
  let ended := { after with ready := frame.ready }
  if frame.hasOutput then (ended.countFrame before.isLongRunning frame, some frame) else (ended, none)

/-- Reading a frame is looking at the clock, reading output, and closing the frame. -/
theorem readFrame_eq (polls : Nat) (episode : Episode) :
    readFrame polls episode = Play.clock >>= fun begun =>
      readOutput episode.frameLimits begun polls episode {} >>= fun result =>
        pure (episode.closing result.1 result.2) := by
  rw [readFrame]
  refine bind_congr fun begun => bind_congr fun result => ?_
  obtain ⟨after, frame⟩ := result
  dsimp only [closing]
  split
  · rfl
  · rfl

/-- How a closed frame depends on what was read. -/
structure Closes (after : Episode) (frame : Frame) (result : Episode × Option Frame) : Prop where
  /-- The session is that after the last wait. -/
  session_eq : result.1.session = after.session
  /-- The avatar is where it was seen. -/
  avatar_eq : result.1.avatar = after.avatar
  /-- Failed typing is not forgotten. -/
  failed_eq : result.1.failed = after.failed
  /-- The episode remembers whether the redraw was complete. -/
  ready_eq : result.1.ready = frame.ready
  /-- There is a frame just when there was output. -/
  frame_eq : result.2 = if frame.hasOutput then some frame else none

theorem closes_closing (before after : Episode) (frame : Frame) :
    Closes after frame (before.closing after frame) := by
  unfold closing
  split
  · next output => exact ⟨rfl, rfl, rfl, rfl, (if_pos output).symm⟩
  · next silence => exact ⟨rfl, rfl, rfl, rfl, (if_neg silence).symm⟩

end Episode

end RoguePilot
