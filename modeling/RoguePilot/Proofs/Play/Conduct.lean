import RoguePilot.Play.Rehearsal
import RoguePilot.Proofs.Play.Asking
import RoguePilot.Proofs.Play.Turn

/-!
# The conduct of an episode

What an episode asks depends on two things it remembers: the session, if there is one, and whether
typing has failed. A link says what these have to do with what has happened so far. If every single
request keeps a link and obeys a rule by it, then so do the calls, in any order and however often; and
if only the requests of playing do, then so does everything but starting and closing a game.
-/

namespace RoguePilot

open Dialogue

namespace Play

/-- What has happened so far is linked to the session there is and to whether typing has failed. -/
abbrev Link : Type := List Event → Option Session → Bool → Prop

/-- While a game is played, every request obeys the rule and keeps the link. -/
structure PlayingKeeps (rule : Rule) (link : Link) : Prop where
  /-- Looking at the clock does. -/
  clock : ∀ {past session failed}, link past session failed →
    rule past .clock ∧ ∀ time : Nat, link (past ++ [⟨.clock, time⟩]) session failed
  /-- Waiting for output does, whether any comes or not. -/
  poll : ∀ {past session failed} (milliseconds : Nat), link past (some session) failed →
    rule past (.poll milliseconds) ∧
      (∀ time, link (past ++ [⟨.poll milliseconds, (⟨none, time⟩ : Reading)⟩]) (some session) failed) ∧
      ∀ chunk time, link (past ++ [⟨.poll milliseconds, (⟨some chunk, time⟩ : Reading)⟩])
        (some (session.receive chunk).1) failed
  /-- Typing keys does, unless it has failed before. -/
  write : ∀ {past session} (keys : List UInt8), link past (some session) false →
    rule past (.write keys) ∧
      ∀ accepted : Bool, link (past ++ [⟨.write keys, accepted⟩]) (some session) (!accepted)

/-- A link that is kept while a game is played may be asked for only as long as there is a session. -/
theorem PlayingKeeps.whileOpen {rule : Rule} {link : Link} (keeps : PlayingKeeps rule link)
    (clock : ∀ past, rule past .clock) :
    PlayingKeeps rule fun past session failed => session.isSome = true → link past session failed where
  clock here := ⟨clock _, fun time present => (keeps.clock (here present)).2 time⟩
  poll milliseconds here := by
    obtain ⟨allowed, quiet, heard⟩ := keeps.poll milliseconds (here rfl)
    exact ⟨allowed, fun time _ => quiet time, fun chunk time _ => heard chunk time⟩
  write keys here := by
    obtain ⟨allowed, kept⟩ := keeps.write keys (here rfl)
    exact ⟨allowed, fun accepted _ => kept accepted⟩

/-- Every request obeys the rule and keeps the link, those that start and stop a game included. -/
structure CallingKeeps (rule : Rule) (link : Link) : Prop extends PlayingKeeps rule link where
  /-- Asking whether the game is running does. -/
  isRunning : ∀ {past session failed}, link past (some session) failed →
    rule past .isRunning ∧
      ∀ running : Bool, link (past ++ [⟨.isRunning, running⟩]) (some session) failed
  /-- Stopping the game does, and takes its session away. -/
  terminate : ∀ {past session failed} (milliseconds : Nat), link past (some session) failed →
    rule past (.terminate milliseconds) ∧
      ∀ stopped : Unit, link (past ++ [⟨.terminate milliseconds, stopped⟩]) none failed
  /-- Quitting the game before it is stopped does, even if the keys are refused. -/
  quit : ∀ {past session} (milliseconds : Nat), link past (some session) false →
    rule past (.write Episode.quitKeys) ∧ ∀ accepted : Bool,
      rule (past ++ [⟨.write Episode.quitKeys, accepted⟩]) (.terminate milliseconds) ∧
        ∀ stopped : Unit, link
          (past ++ [⟨.write Episode.quitKeys, accepted⟩] ++ [⟨.terminate milliseconds, stopped⟩])
          none false
  /-- Starting a game does, and forgets that typing has failed in the one before. -/
  launch : ∀ {past failed} (size : Size), link past none failed →
    rule past (.launch size) ∧
      link (past ++ [⟨.launch size, true⟩]) (some (.start size)) false ∧
      link (past ++ [⟨.launch size, false⟩]) none true
  /-- A game that does not begin counts as one in which typing has failed. -/
  giveUp : ∀ {past session failed}, link past session failed → link past session true

/-- The request is one of playing: it has nothing to do with starting or stopping a game. -/
def isOfPlay : Request → Bool
  | .write _ => true
  | .poll _ => true
  | .clock => true
  | _ => false

/-- The request starts a game. -/
def isLaunch : Request → Bool
  | .launch _ => true
  | _ => false

theorem isLaunch_of_isOfPlay {request : Request} (plays : isOfPlay request = true) :
    isLaunch request = false := by
  cases request with
  | launch size => contradiction
  | _ => rfl

theorem playingKeeps_isOfPlay :
    PlayingKeeps (fun _ request => isOfPlay request = true) fun _ _ _ => True where
  clock _ := ⟨rfl, fun _ => trivial⟩
  poll _ _ := ⟨rfl, fun _ => trivial, fun _ _ => trivial⟩
  write _ _ := ⟨rfl, fun _ => trivial⟩

end Play

namespace Episode

open Play

/-- What has happened so far is linked to what the episode remembers. -/
abbrev Linked (link : Link) (past : List Event) (episode : Episode) : Prop :=
  link past episode.session episode.failed

variable {rule : Rule} {link : Link} {past : List Event} {episode : Episode}

/-! ## Playing -/

theorem send_obeys (keeps : PlayingKeeps rule link) (keys : List UInt8)
    (here : episode.Linked link past) :
    Obeys rule (fun past sent => sent.Linked link past) past (episode.send keys) := by
  refine obeys_send (fun _ => here) ?_
  intro session works present
  rw [Linked, present, works] at here
  obtain ⟨allowed, kept⟩ := keeps.write keys here
  refine ⟨allowed, fun accepted => ?_⟩
  change link _ episode.session (!accepted)
  rw [present]
  exact kept accepted

theorem linked_locateAvatar (screen : Screen) :
    (episode.locateAvatar screen).Linked link past ↔ episode.Linked link past := by
  unfold locateAvatar
  split <;> rfl

theorem wait_obeys_link {session : Session} (keeps : PlayingKeeps rule link) (limits : FrameLimits)
    (begun : Nat) (frame : Frame) (here : episode.Linked link past)
    (present : episode.session = some session) :
    Obeys rule (fun later waited => waited.episode.Linked link later) past
      (wait limits begun session episode frame) := by
  rw [Linked, present] at here
  obtain ⟨allowed, quiet, heard⟩ := keeps.poll limits.pause here
  refine wait_obeys allowed ?_ ?_ ?_
  · intro time
    rw [Linked, present]
    exact quiet time
  · intro chunk time prompt _
    exact send_obeys keeps prompt.reply (heard chunk time)
  · intro chunk time _
    exact (linked_locateAvatar _).mpr (heard chunk time)

theorem readFrame_obeys (keeps : PlayingKeeps rule link) (polls : Nat)
    (here : episode.Linked link past) :
    Obeys rule (fun past result => result.1.Linked link past) past (readFrame polls episode) := by
  obtain ⟨allowed, kept⟩ := keeps.clock here
  refine (readFrame_obeys_of_kept (fun past episode _ => episode.Linked link past) allowed
    (fun begun _ _ frame _ => wait_obeys_link keeps _ begun frame) rfl kept).mono ?_
  rintro later result ⟨after, frame, still, closes⟩
  rw [Linked, closes.session_eq, closes.failed_eq]
  exact still

@[simp] theorem session_takeSnapshot (episode : Episode) (frame : Frame) :
    (episode.takeSnapshot frame).1.session = episode.session := by
  unfold takeSnapshot
  split <;> rfl

@[simp] theorem failed_takeSnapshot (episode : Episode) (frame : Frame) :
    (episode.takeSnapshot frame).1.failed = episode.failed := by
  unfold takeSnapshot
  split <;> rfl

theorem advance_obeys (keeps : PlayingKeeps rule link) (polls : Nat)
    (here : episode.Linked link past) :
    Obeys rule (fun past result => result.1.Linked link past) past (advance polls episode) := by
  rw [advance, obeys_bind]
  refine (readFrame_obeys keeps polls here).mono ?_
  rintro later ⟨after, frame?⟩ still
  cases frame? with
  | none => exact still
  | some frame =>
      change link later (after.takeSnapshot frame).1.session (after.takeSnapshot frame).1.failed
      rw [session_takeSnapshot, failed_takeSnapshot]
      exact still

theorem awaitStart_obeys (keeps : PlayingKeeps rule link) (polls attempts : Nat)
    (weaponChosen : Bool) (here : episode.Linked link past) :
    Obeys rule (fun past result => result.1.Linked link past) past
      (awaitStart polls attempts weaponChosen episode) := by
  induction attempts generalizing past weaponChosen episode with
  | zero => exact here
  | succ attempts induction =>
      rw [awaitStart, obeys_bind]
      refine (advance_obeys keeps polls here).mono ?_
      rintro later ⟨after, reward⟩ there
      dsimp only
      split
      · exact there
      · split
        · exact there
        · split
          · rw [obeys_bind]
            refine (send_obeys keeps _ there).mono ?_
            intro chosen_past chosen still
            exact induction true still
          · exact induction weaponChosen there

theorem step_obeys (keeps : PlayingKeeps rule link) (polls : Nat) (action : List UInt8)
    (here : episode.Linked link past) :
    Obeys rule (fun past result => result.1.Linked link past) past
      (episode.step polls action) := by
  unfold step
  split
  · exact here
  · have counted : episode.countStep.Linked link past := here
    rw [obeys_bind]
    refine (send_obeys keeps action counted).mono ?_
    intro sent_past sent still
    dsimp only
    split
    · exact still
    · rw [obeys_bind]
      refine (advance_obeys keeps polls still).mono ?_
      rintro later ⟨after, reward⟩ there
      exact there

/-! ## Starting and closing -/

theorem close_obeys (keeps : CallingKeeps rule link) (here : episode.Linked link past) :
    Obeys rule (fun past closed => closed.Linked link past ∧ closed.session = none) past
      episode.close := by
  unfold close
  split
  · next absent => exact ⟨here, Option.isNone_iff_eq_none.mp absent⟩
  · next playing =>
    simp only [Bool.not_eq_true, Option.isNone_eq_false_iff, Option.isSome_iff_exists] at playing
    obtain ⟨session, present⟩ := playing
    rw [Linked, present] at here
    obtain ⟨allowed, asked⟩ := keeps.isRunning here
    rw [obeys_bind, obeys_isRunning]
    refine ⟨allowed, fun running => ?_⟩
    split
    · next able =>
      simp only [Bool.and_eq_true, Bool.not_eq_true'] at able
      have works := asked running
      rw [able.2] at works
      obtain ⟨quits, stops⟩ := keeps.quit episode.timing.quitGrace works
      rw [obeys_bind]
      refine ⟨quits, fun accepted => ?_⟩
      obtain ⟨may_stop, stopped⟩ := stops accepted
      refine ⟨may_stop, fun answer => ⟨?_, rfl⟩⟩
      change link _ none episode.failed
      rw [able.2]
      exact stopped answer
    · obtain ⟨may_stop, stopped⟩ := keeps.terminate episode.timing.quitGrace (asked running)
      rw [obeys_bind, obeys_terminate]
      exact ⟨may_stop, fun answer => ⟨stopped answer, rfl⟩⟩

theorem reset_obeys (keeps : CallingKeeps rule link) (polls : Nat)
    (here : episode.Linked link past) :
    Obeys rule (fun past result => result.1.Linked link past) past (episode.reset polls) := by
  rw [reset, obeys_bind]
  refine (close_obeys keeps here).mono ?_
  rintro closed_past closed ⟨still, absent⟩
  rw [Linked, absent] at still
  obtain ⟨allowed, opens, fails⟩ := keeps.launch closed.next.size still
  rw [obeys_bind, obeys_launch]
  refine ⟨allowed, fun launched => ?_⟩
  cases launched with
  | false => exact fails
  | true =>
      have opened : closed.opened.Linked link (closed_past ++ [⟨.launch closed.next.size, true⟩]) :=
        opens
      rw [if_pos rfl, obeys_bind]
      refine (awaitStart_obeys keeps.toPlayingKeeps polls _ false opened).mono ?_
      rintro later ⟨waited, begun⟩ there
      cases begun with
      | true =>
          change link later waited.session (waited.failed || false)
          rw [Bool.or_false]
          exact there
      | false =>
          change link later waited.session (waited.failed || true)
          rw [Bool.or_true]
          exact keeps.giveUp there

/-! ## Any calls -/

theorem call_obeys (keeps : CallingKeeps rule link) (polls : Nat) (next : Call)
    (here : episode.Linked link past) :
    Obeys rule (fun past after => after.Linked link past) past (call polls episode next) := by
  cases next with
  | reset =>
      rw [call, obeys_bind]
      exact reset_obeys keeps polls here
  | step action =>
      rw [call, obeys_bind]
      exact step_obeys keeps.toPlayingKeeps polls action here
  | close => exact (close_obeys keeps here).mono fun _ _ closed => closed.1

/-- If every request keeps the link and obeys the rule by it, any calls made in order do. -/
theorem callAll_obeys (keeps : CallingKeeps rule link) (polls : Nat) (calls : List Call)
    (here : episode.Linked link past) :
    Obeys rule (fun past after => after.Linked link past) past (callAll polls episode calls) := by
  induction calls generalizing past episode with
  | nil => exact here
  | cons next later induction =>
      rw [callAll, obeys_bind]
      refine (call_obeys keeps polls next here).mono ?_
      intro called_past after there
      exact induction there

end Episode

/-! ## A rehearsed game -/

namespace Play.Rehearsal

/-- A small screen, and no waiting for output. -/
def hasty : Config :=
  { terminal := { rows := 2 }, timing := { readTimeout := 0 } }

/-- A game that begins at once and is easy: any keys gain a level, but for the typings it refuses. -/
def easyGame (refusals : List Nat) : Script :=
  let shows (text : String) : Entry := some (Keys.ofText text)
  { pending :=
      [shows "\x1b[2HFound a staircase leading out of the dungeon",
        shows "\x1b[1;38HHealth:9/9 Magic:0/0 AC:1 Str:1 XL:1 Next:0"]
    rules := [⟨none, [shows "\x1b[1;70HXL:2 Next:0"], none⟩]
    refusals
    running := true
    typings := 0 }

end Play.Rehearsal

end RoguePilot
