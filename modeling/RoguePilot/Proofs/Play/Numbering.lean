import RoguePilot.Play.Turn
import RoguePilot.Proofs.Play.Waiting

/-!
# The number of an episode

Nothing depends on the number of an episode. Taking a step of an episode under another number, or
waiting for its game to begin, is the same program with its results under that number.
-/

namespace RoguePilot.Episode

/-- The episode under another number. -/
def renumber (number : Nat) (episode : Episode) : Episode :=
  { episode with tally := { episode.tally with episode := number } }

@[simp] theorem renumber_renumber (first second : Nat) (episode : Episode) :
    (episode.renumber first).renumber second = episode.renumber second := rfl

variable (number : Nat)

@[simp] theorem timing_renumber (episode : Episode) :
    (episode.renumber number).timing = episode.timing := rfl

@[simp] theorem session_renumber (episode : Episode) :
    (episode.renumber number).session = episode.session := rfl

@[simp] theorem failed_renumber (episode : Episode) :
    (episode.renumber number).failed = episode.failed := rfl

@[simp] theorem frameLimits_renumber (episode : Episode) :
    (episode.renumber number).frameLimits = episode.frameLimits := rfl

@[simp] theorem hasBegun_renumber (episode : Episode) :
    (episode.renumber number).hasBegun = episode.hasBegun := rfl

@[simp] theorem screenShows_renumber (episode : Episode) (marker : String) :
    (episode.renumber number).screenShows marker = episode.screenShows marker := rfl

@[simp] theorem weaponKey_renumber (episode : Episode) :
    (episode.renumber number).weaponKey = episode.weaponKey := rfl

@[simp] theorem phase_renumber (episode : Episode) :
    (episode.renumber number).phase = episode.phase := rfl

@[simp] theorem countStep_renumber (episode : Episode) :
    (episode.renumber number).countStep = episode.countStep.renumber number := rfl

theorem locateAvatar_renumber (episode : Episode) (screen : Screen) :
    (episode.renumber number).locateAvatar screen =
      (episode.locateAvatar screen).renumber number := by
  unfold locateAvatar
  cases found : episode.avatar with
  | none => simp [renumber, found]
  | some place => simp [renumber, found]

theorem send_renumber (episode : Episode) (keys : List UInt8) :
    (episode.renumber number).send keys = renumber number <$> episode.send keys := by
  unfold send
  rw [apply_ite (renumber number <$> ·)]
  rfl

/-- What a wait comes to, with the episode under another number. -/
def Waited.renumber (waited : Waited) : Waited :=
  { waited with episode := waited.episode.renumber number }

theorem hearing_renumber (episode : Episode) (session : Session) (chunk : List UInt8) :
    (episode.renumber number).hearing session chunk =
      (episode.hearing session chunk).renumber number := rfl

theorem drawing_renumber (limits : FrameLimits) (elapsed : Nat) (session : Session)
    (chunk : List UInt8) (episode : Episode) (frame : Frame) :
    drawing limits elapsed session chunk (episode.renumber number) frame =
      (drawing limits elapsed session chunk episode frame).renumber number := by
  have seeing_eq : (episode.renumber number).seeing session chunk =
      (episode.seeing session chunk).renumber number :=
    locateAvatar_renumber number (episode.hearing session chunk) _
  rw [drawing, drawing, seeing_eq]
  rfl

theorem wait_renumber (limits : FrameLimits) (begun : Nat) (session : Session) (episode : Episode)
    (frame : Frame) :
    wait limits begun session (episode.renumber number) frame =
      Waited.renumber number <$> wait limits begun session episode frame := by
  rw [wait, wait, map_bind]
  refine bind_congr fun reading => ?_
  dsimp only
  split
  · rfl
  · next chunk _ =>
    split
    · next prompt _ =>
      rw [hearing_renumber, send_renumber, bind_map_left, map_bind]
      rfl
    · rw [drawing_renumber]
      rfl

theorem readOutput_renumber (limits : FrameLimits) (begun polls : Nat) (episode : Episode)
    (frame : Frame) :
    readOutput limits begun polls (episode.renumber number) frame =
      Prod.map (renumber number) id <$> readOutput limits begun polls episode frame := by
  induction polls generalizing episode frame with
  | zero => rfl
  | succ polls induction =>
      cases current : episode.session with
      | none =>
          have absent : (episode.renumber number).session = none := current
          rw [readOutput_absent current, readOutput_absent absent]
          rfl
      | some session =>
          have present : (episode.renumber number).session = some session := current
          rw [readOutput_eq_wait current, readOutput_eq_wait present, wait_renumber, bind_map_left,
            map_bind]
          refine bind_congr fun waited => ?_
          rw [apply_ite (Prod.map (renumber number) id <$> ·), ← induction]
          rfl

theorem readFrame_renumber (polls : Nat) (episode : Episode) :
    (episode.renumber number).readFrame polls =
      Prod.map (renumber number) id <$> episode.readFrame polls := by
  rw [readFrame, readFrame, map_bind]
  refine bind_congr fun begun => ?_
  rw [frameLimits_renumber, readOutput_renumber, bind_map_left, map_bind]
  refine bind_congr ?_
  rintro ⟨after, frame⟩
  dsimp only [Prod.map, id]
  split <;> rfl

theorem takeSnapshot_renumber (episode : Episode) (frame : Frame) :
    (episode.renumber number).takeSnapshot frame =
      Prod.map (renumber number) id (episode.takeSnapshot frame) := by
  rw [takeSnapshot, takeSnapshot, session_renumber]
  split <;> rfl

theorem advance_renumber (polls : Nat) (episode : Episode) :
    (episode.renumber number).advance polls =
      Prod.map (renumber number) id <$> episode.advance polls := by
  rw [advance, advance, readFrame_renumber, bind_map_left, map_bind]
  refine bind_congr ?_
  rintro ⟨after, frame?⟩
  cases frame? with
  | none => rfl
  | some frame => exact congrArg pure (takeSnapshot_renumber number after frame)

theorem awaitStart_renumber (polls attempts : Nat) (weaponChosen : Bool) (episode : Episode) :
    awaitStart polls attempts weaponChosen (episode.renumber number) =
      Prod.map (renumber number) id <$> awaitStart polls attempts weaponChosen episode := by
  induction attempts generalizing weaponChosen episode with
  | zero => rfl
  | succ attempts induction =>
      rw [awaitStart, awaitStart, advance_renumber, bind_map_left, map_bind]
      refine bind_congr ?_
      rintro ⟨after, reward⟩
      dsimp only [Prod.map]
      rw [failed_renumber, hasBegun_renumber, screenShows_renumber, weaponKey_renumber]
      split
      · rfl
      · split
        · rfl
        · split
          · rw [send_renumber, bind_map_left, map_bind]
            exact bind_congr fun chosen => induction true chosen
          · exact induction weaponChosen after

theorem step_renumber (polls : Nat) (episode : Episode) (action : List UInt8) :
    (episode.renumber number).step polls action =
      Prod.map (renumber number) id <$> episode.step polls action := by
  rw [step, step, failed_renumber, phase_renumber]
  split
  · rfl
  · rw [countStep_renumber, send_renumber, bind_map_left, map_bind]
    refine bind_congr fun sent => ?_
    rw [failed_renumber]
    dsimp only
    split
    · rfl
    · rw [advance_renumber, bind_map_left, map_bind]
      exact bind_congr fun _ => rfl

end RoguePilot.Episode
