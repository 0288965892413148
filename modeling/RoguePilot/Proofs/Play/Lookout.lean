import RoguePilot.Proofs.Play.Course
import RoguePilot.Proofs.Play.Hearing
import RoguePilot.Proofs.Screen.Glyph
import RoguePilot.Proofs.Terminal.Run

/-!
# The look-out for the avatar

The avatar is looked for on the screen after every chunk that shows no prompt, until it is seen. So where it
was seen is told by the output of the game that is on, and it was the first place to show its glyph then.
Nothing moves it before the next game.
-/

namespace RoguePilot

open Dialogue

/-- The session with a game, and where the avatar was seen in it. -/
structure Lookout where
  /-- The session. -/
  session : Session
  /-- Where the avatar was seen. -/
  place : Option Position := none

/-- The chunk shows no prompt, and on the screen after it the avatar is seen at the place. -/
structure Session.Sights (session : Session) (chunk : List UInt8) (place : Position) : Prop where
  /-- The chunk shows no prompt. -/
  unprompted : Prompt.detect (session.receive chunk).2 = none
  /-- The place is the first one to show the avatar. -/
  shows : (session.receive chunk).1.screen.ShowsFirst Episode.avatarGlyph place

namespace Lookout

/-- After a chunk without a prompt the avatar is looked for, unless it was seen before. -/
def receive (lookout : Lookout) (chunk : List UInt8) : Lookout where
  session := (lookout.session.receive chunk).1
  place :=
    match Prompt.detect (lookout.session.receive chunk).2 with
    | some _ => lookout.place
    | none => lookout.place.or ((lookout.session.receive chunk).1.screen.find? Episode.avatarGlyph)

/-- The look-out after chunks received one after the other. -/
def receiveAll (lookout : Lookout) (chunks : List (List UInt8)) : Lookout :=
  chunks.foldl receive lookout

variable {lookout : Lookout} {session : Session} {chunk : List UInt8} {chunks : List (List UInt8)}
  {place : Position}

theorem receiveAll_append (lookout : Lookout) (left right : List (List UInt8)) :
    lookout.receiveAll (left ++ right) = (lookout.receiveAll left).receiveAll right :=
  List.foldl_append

theorem receiveAll_concat (lookout : Lookout) (chunks : List (List UInt8)) (chunk : List UInt8) :
    lookout.receiveAll (chunks ++ [chunk]) = (lookout.receiveAll chunks).receive chunk :=
  receiveAll_append _ _ _

theorem session_receiveAll (lookout : Lookout) (chunks : List (List UInt8)) :
    (lookout.receiveAll chunks).session = (lookout.session.receiveAll chunks).1 := by
  induction chunks generalizing lookout with
  | nil => rfl
  | cons chunk chunks induction => exact induction (lookout.receive chunk)

theorem place_receive_of_shown {prompt : Prompt}
    (shown : Prompt.detect (lookout.session.receive chunk).2 = some prompt) :
    (lookout.receive chunk).place = lookout.place := by
  rw [receive, shown]

theorem place_receive_of_none (unprompted : Prompt.detect (lookout.session.receive chunk).2 = none) :
    (lookout.receive chunk).place =
      lookout.place.or ((lookout.session.receive chunk).1.screen.find? Episode.avatarGlyph) := by
  rw [receive, unprompted]

/-- What was seen stays where it was seen. -/
theorem place_receiveAll_of_some (seen : lookout.place = some place) (chunks : List (List UInt8)) :
    (lookout.receiveAll chunks).place = some place := by
  induction chunks generalizing lookout with
  | nil => exact seen
  | cons chunk chunks induction =>
      refine induction ?_
      cases shown : Prompt.detect (lookout.session.receive chunk).2 with
      | some prompt => rw [place_receive_of_shown shown, seen]
      | none => rw [place_receive_of_none shown, seen, Option.some_or]

theorem place_receive_eq_some_iff :
    (receive { session } chunk).place = some place ↔ session.Sights chunk place := by
  cases shown : Prompt.detect (session.receive chunk).2 with
  | some prompt =>
      rw [place_receive_of_shown shown]
      constructor
      · exact fun absent => nomatch absent
      · exact fun sights => nomatch shown.symm.trans sights.unprompted
  | none =>
      rw [place_receive_of_none shown, Option.none_or, Screen.find?_eq_some_iff]
      exact ⟨fun shows => ⟨shown, shows⟩, fun sights => sights.shows⟩

/-- What was seen in chunks was seen after one of them, and not before. -/
theorem exists_sighting (seen : (receiveAll { session } chunks).place = some place) :
    ∃ before chunk after, chunks = before ++ chunk :: after ∧
      (session.receiveAll before).1.Sights chunk place ∧
      ∀ earlier other later, before = earlier ++ other :: later →
        ∀ elsewhere, ¬ (session.receiveAll earlier).1.Sights other elsewhere := by
  induction chunks generalizing session with
  | nil => exact nomatch seen
  | cons chunk chunks induction =>
      cases first : (receive { session } chunk).place with
      | some here =>
          obtain rfl := Option.some.inj ((place_receiveAll_of_some first chunks).symm.trans seen)
          refine ⟨[], chunk, chunks, rfl, place_receive_eq_some_iff.mp first, ?_⟩
          intro earlier other later nothing
          simp at nothing
      | none =>
          have unseen : receive { session } chunk = { session := (session.receive chunk).1 } :=
            congrArg (Lookout.mk _) first
          have still : (receiveAll (receive { session } chunk) chunks).place = some place := seen
          rw [unseen] at still
          obtain ⟨before, other, after, rfl, sights, before_none⟩ := induction still
          refine ⟨chunk :: before, other, after, rfl, sights, ?_⟩
          intro earlier next later split elsewhere sighted
          cases earlier with
          | nil =>
              obtain ⟨rfl, rfl⟩ := List.cons.inj split
              have found := place_receive_eq_some_iff.mpr sighted
              exact nomatch first.symm.trans found
          | cons head earlier =>
              obtain ⟨rfl, before_eq⟩ := List.cons.inj split
              exact before_none earlier next later before_eq elsewhere sighted

end Lookout

namespace Episode

open Play

variable {limits : FrameLimits} {begun polls : Nat} {past events : List Event}
  {episode before after : Episode} {session : Session} {frame : Frame} {place : Position}
  {seen : Option Position}

/-! ## Looking out in a frame -/

theorem avatar_locateAvatar (episode : Episode) (screen : Screen) :
    (episode.locateAvatar screen).avatar = episode.avatar.or (screen.find? avatarGlyph) := by
  unfold locateAvatar
  cases here : episode.avatar with
  | none => rfl
  | some place => exact here

/-- What was heard in a frame is also what was looked at. -/
structure LooksOut (session : Session) (seen : Option Position) (events : List Event)
    (episode : Episode) (frame : Frame) : Prop extends Hears session events episode frame where
  /-- The avatar is where the look-out has seen it. -/
  avatar_eq : episode.avatar = ((Lookout.mk session seen).receiveAll (chunks events)).place

theorem wait_looksOut {current : Session} (looksOut : LooksOut session seen past episode frame)
    (present : episode.session = some current) :
    Obeys anything
      (fun later waited => LooksOut session seen later waited.episode waited.frame) past
      (wait limits begun current episode frame) := by
  obtain rfl := looksOut.toHears.current_eq present
  have current_eq : ((Lookout.mk session seen).receiveAll (chunks past)).session =
      (session.receiveAll (chunks past)).1 := Lookout.session_receiveAll _ _
  refine wait_obeys trivial ?_ ?_ ?_
  · intro time
    refine ⟨looksOut.toHears.silence _ _, ?_⟩
    rw [chunks_silence]
    exact looksOut.avatar_eq
  · intro chunk time prompt shown
    have heard := looksOut.toHears.output present limits.pause time (time - begun) chunk
    have kept : episode.avatar =
        ((Lookout.mk session seen).receiveAll (chunks past ++ [chunk])).place := by
      rw [← current_eq] at shown
      rw [Lookout.receiveAll_concat, Lookout.place_receive_of_shown shown]
      exact looksOut.avatar_eq
    refine obeys_send (fun _ => ?_) fun _ _ _ => ⟨trivial, fun accepted => ?_⟩
    · refine ⟨heard, ?_⟩
      rw [chunks_output]
      exact kept
    · refine ⟨(heard.write prompt.reply accepted).of_eq rfl rfl rfl, ?_⟩
      rw [chunks_write, chunks_output]
      exact kept
  · intro chunk time unprompted
    have heard := looksOut.toHears.output present limits.pause time (time - begun) chunk
    refine ⟨heard.of_eq (session_seeing _ _ _) rfl rfl, ?_⟩
    rw [← current_eq] at unprompted ⊢
    rw [chunks_output, Lookout.receiveAll_concat, Lookout.place_receive_of_none unprompted,
      ← looksOut.avatar_eq]
    exact avatar_locateAvatar _ _

/-- After a frame that is read with a session, the avatar is where its chunks show it. -/
theorem readFrame_looksOut (polls : Nat) (present : episode.session = some session) :
    Obeys anything
      (fun later result =>
        result.1.avatar = ((Lookout.mk session episode.avatar).receiveAll (chunks later)).place)
      [] (readFrame polls episode) := by
  have begins (time : Nat) :
      LooksOut session episode.avatar ([] ++ [⟨.clock, time⟩]) episode {} :=
    ⟨⟨present, rfl, rfl⟩, rfl⟩
  refine (readFrame_obeys_of_kept _ trivial (fun begun => wait_looksOut) rfl begins).mono ?_
  rintro later result ⟨after, frame, looksOut, closes⟩
  rw [closes.avatar_eq]
  exact looksOut.avatar_eq

/-! ## Looking out in an episode -/

/-- What is known of the avatar is told by the output of the game that was launched last. -/
inductive Watches : List Event → Episode → Prop where
  /-- There is no game, and nothing is known. -/
  | absent {past : List Event} {episode : Episode} (session_eq : episode.session = none)
      (avatar_eq : episode.avatar = none) : Watches past episode
  /-- The game was launched, and the look-out was kept over all of its output. -/
  | game {episode : Episode} (earlier : List Event) (size : Size) {later : List Event}
      (kept : ∀ event ∈ later, isLaunch event.1 = false)
      (session_eq : ∀ session, episode.session = some session →
        session = ((Session.start size).receiveAll (chunks later)).1)
      (avatar_eq : episode.avatar =
        (Lookout.receiveAll { session := .start size } (chunks later)).place) :
      Watches (earlier ++ ⟨.launch size, true⟩ :: later) episode

theorem Watches.of_eq (watches : Watches past before) (session_eq : after.session = before.session)
    (avatar_eq : after.avatar = before.avatar) : Watches past after := by
  cases watches with
  | absent none_eq unseen => exact .absent (session_eq.trans none_eq) (avatar_eq.trans unseen)
  | game earlier size kept some_eq seen_eq =>
      refine .game earlier size kept ?_ (avatar_eq.trans seen_eq)
      intro session present
      exact some_eq session (session_eq.symm.trans present)

/-- Events without output leave what is known as it is. -/
theorem Watches.silent (watches : Watches past episode)
    (kept : ∀ event ∈ events, isLaunch event.1 = false) (quiet : chunks events = []) :
    Watches (past ++ events) episode := by
  cases watches with
  | absent none_eq unseen => exact .absent none_eq unseen
  | @game _ earlier size later still some_eq seen_eq =>
      have same : chunks (later ++ events) = chunks later := by
        rw [chunks_append, quiet, List.append_nil]
      rw [List.append_assoc, List.cons_append]
      refine .game earlier size (List.forall_mem_append.mpr ⟨still, kept⟩) ?_ ?_
      · rw [same]
        exact some_eq
      · rw [same]
        exact seen_eq

theorem Watches.closed (watches : Watches past episode) :
    Watches past { episode with session := none } := by
  cases watches with
  | absent none_eq unseen => exact .absent rfl unseen
  | game earlier size kept some_eq seen_eq =>
      exact .game earlier size kept (fun _ absent => nomatch absent) seen_eq

theorem avatar_takeSnapshot (episode : Episode) (frame : Frame) :
    (episode.takeSnapshot frame).1.avatar = episode.avatar := by
  unfold takeSnapshot
  split <;> rfl

/-- Evaluating a frame does not change what is known of the avatar. -/
theorem runs_advance {result : Episode × Int} (run : Runs (advance polls episode) events result) :
    ∃ read frame?, Runs (readFrame polls episode) events (read, frame?) ∧
      result.1.session = read.session ∧ result.1.avatar = read.avatar := by
  rw [advance] at run
  obtain ⟨reading, finish, ⟨read, frame?⟩, rfl, reads, ends⟩ := runs_bind_iff.mp run
  cases frame? with
  | none =>
      obtain ⟨rfl, rfl⟩ := runs_done_iff.mp ends
      rw [List.append_nil]
      exact ⟨read, none, reads, rfl, rfl⟩
  | some frame =>
      obtain ⟨rfl, rfl⟩ := runs_done_iff.mp ends
      rw [List.append_nil]
      exact ⟨read, some frame, reads, session_takeSnapshot _ _, avatar_takeSnapshot _ _⟩

/-- A frame of the game adds its output to what is known. -/
theorem Watches.read {result : Episode × Option Frame} (watches : Watches past episode)
    (run : Runs (readFrame polls episode) events result) : Watches (past ++ events) result.1 := by
  cases present : episode.session with
  | none =>
      obtain ⟨⟨time, rfl⟩, closes⟩ := readFrame_absent present run
      have quiet : ∀ event ∈ [(⟨.clock, time⟩ : Event)], isLaunch event.1 = false :=
        List.forall_mem_singleton.mpr rfl
      exact (watches.silent quiet rfl).of_eq closes.session_eq closes.avatar_eq
  | some session =>
      cases watches with
      | absent none_eq unseen => exact nomatch none_eq.symm.trans present
      | @game _ earlier size later kept some_eq seen_eq =>
          have asks : Obeys (fun _ request => isOfPlay request = true) (fun _ _ => True)
              ([] : List Event) (readFrame polls episode) :=
            readFrame_obeys playingKeeps_isOfPlay polls trivial
          have ofPlay := asks.of_mem run
          have comprehends : Comprehends session events result :=
            (readFrame_comprehends polls present).of_runs run
          have looked : result.1.avatar =
              ((Lookout.mk session episode.avatar).receiveAll (chunks events)).place :=
            (readFrame_looksOut polls present).of_runs run
          have known : Lookout.receiveAll { session := .start size } (chunks later) =
              ⟨session, episode.avatar⟩ := by
            rw [seen_eq, some_eq session present, ← Lookout.session_receiveAll { session := .start size }]
          rw [List.append_assoc, List.cons_append]
          refine .game earlier size (List.forall_mem_append.mpr ⟨kept, fun event member =>
            isLaunch_of_isOfPlay (ofPlay event member)⟩) ?_ ?_
          · intro last last_eq
            rw [chunks_append, Session.receiveAll_append, ← some_eq session present]
            exact Option.some.inj (last_eq.symm.trans comprehends.session_eq)
          · rw [chunks_append, Lookout.receiveAll_append, known]
            exact looked

theorem isLaunch_of_isCommand {request : Request} (command : isCommand request = true) :
    isLaunch request = false := by
  cases request with
  | launch size => contradiction
  | _ => rfl

theorem chunks_of_isCommand {event : Event} (command : isCommand event.1 = true) :
    chunks [event] = [] := by
  obtain ⟨request, answer⟩ := event
  cases request with
  | poll milliseconds => cases command
  | _ => rfl

/-- What the look-out knows is kept by calls, and starts afresh with every game. -/
theorem courseKeeps_watches : CourseKeeps Watches where
  of_eq watches session_eq avatar_eq _ := watches.of_eq session_eq avatar_eq
  command event command watches :=
    watches.silent (List.forall_mem_singleton.mpr (isLaunch_of_isCommand command))
      (chunks_of_isCommand command)
  advance polls watches := by
    refine obeys_of_runs fun events result run => ?_
    obtain ⟨read, frame?, reads, session_eq, avatar_eq⟩ := runs_advance run
    exact (watches.read reads).of_eq session_eq avatar_eq
  closed watches := watches.closed
  launched past episode := by
    refine .game past episode.next.size (List.forall_mem_nil _) ?_ rfl
    rintro session ⟨⟩
    rfl
  refused past episode := .absent rfl rfl

/-- A frame leaves the avatar where it was seen. -/
theorem avatar_readFrame {result : Episode × Option Frame} (seen : episode.avatar = some place)
    (run : Runs (readFrame polls episode) events result) : result.1.avatar = some place := by
  cases present : episode.session with
  | none =>
      obtain ⟨-, closes⟩ := readFrame_absent present run
      exact closes.avatar_eq.trans seen
  | some session =>
      have looked : result.1.avatar =
          ((Lookout.mk session episode.avatar).receiveAll (chunks events)).place :=
        (readFrame_looksOut polls present).of_runs run
      exact looked.trans (Lookout.place_receiveAll_of_some seen _)

/-- The avatar stays where it was seen as long as no other game is started. -/
theorem gameKeeps_avatar (place : Position) :
    GameKeeps fun _ episode => episode.avatar = some place where
  of_eq seen _ avatar_eq _ := avatar_eq.trans seen
  command _ _ seen := seen
  advance polls seen := by
    refine obeys_of_runs fun events result run => ?_
    obtain ⟨read, frame?, reads, -, avatar_eq⟩ := runs_advance run
    exact avatar_eq.trans (avatar_readFrame seen reads)
  closed seen := seen

/-! ## Where the avatar is, and when a frame is ready -/

theorem keeps_receive {size : Size} (keeps : Terminal.Console.Keeps size session.console)
    (chunk : List UInt8) : Terminal.Console.Keeps size (session.receive chunk).1.console :=
  keeps.display _

theorem keeps_receiveAll {size : Size} (keeps : Terminal.Console.Keeps size session.console)
    (chunks : List (List UInt8)) : Terminal.Console.Keeps size (session.receiveAll chunks).1.console := by
  rw [Session.receiveAll_eq_receive]
  exact keeps_receive keeps _

/-- What is seen in a game is on its screen. -/
theorem contains_of_sights {size : Size} {chunks : List (List UInt8)} {chunk : List UInt8}
    (sights : ((Session.start size).receiveAll chunks).1.Sights chunk place) :
    size.atLeastOne.Contains place := by
  have starts : Terminal.Console.Keeps size.atLeastOne (Session.start size).console := .start size
  have keeps := keeps_receive (keeps_receiveAll starts chunks) chunk
  have inside := sights.shows.contains keeps.wellFormed.filled
  exact keeps.size_eq ▸ inside

/-- A frame is ready after a full view, or with the cursor parked on the avatar. -/
inductive IsDrawn (after : Episode) (frame : Frame) : Prop where
  /-- The text contains what is drawn last on a view, whatever newlines are in between. -/
  | view (complete : View.isComplete frame.text = true) : IsDrawn after frame
  /-- Nothing is partly read, and the text ends by moving the cursor to the avatar, where it is. -/
  | parked {session : Session} {place : Position} (present : after.session = some session)
    (seen : after.avatar = some place) (idle : session.isIdle = true) (there : session.cursor = place)
    (moved : parkSequence place <:+ Text.trimEnd '\n' frame.text) : IsDrawn after frame

/-- When a frame ends as ready, it is drawn. -/
theorem isDrawn_of_ready {frame? : Option Frame} (run : Runs (readFrame polls episode) events (after, frame?))
    (ready : after.ready = true) : ∃ frame ∈ frame?, IsDrawn after frame := by
  cases present : episode.session with
  | none =>
      obtain ⟨-, closes⟩ := readFrame_absent present run
      exact nomatch closes.ready_eq.symm.trans ready
  | some session =>
      have comprehends : Comprehends session events (after, frame?) :=
        (readFrame_comprehends polls present).of_runs run
      have redraw := comprehends.ready_iff.mp ready
      cases frame? with
      | none =>
          -- Without a chunk there is no last one.
          have empty : (chunks events).isEmpty = true := by simpa using comprehends.isSome_eq
          rw [List.isEmpty_iff.mp empty] at redraw
          exact absurd redraw not_endsRedraw_nil
      | some frame =>
          have text_eq := comprehends.text_eq frame rfl
          refine ⟨frame, rfl, ?_⟩
          rcases redraw.redrawn with complete | ⟨place, seen, parked⟩
          · rw [← text_eq] at complete
            exact .view complete
          · rw [← text_eq] at parked
            simp only [isParked, Bool.and_eq_true, decide_eq_true_eq] at parked
            obtain ⟨⟨idle, there⟩, moved⟩ := parked
            exact .parked comprehends.session_eq seen idle there (List.isSuffixOf_iff_suffix.mp moved)

/--
In a new episode with any calls behind it, whatever the outside answered, the avatar is where it was first
seen in the game that was launched last: after one of its chunks, at the first place of the screen, line by
line, to show the avatar then; after the chunks before it either a prompt was answered or no place showed it.
The place is on the screen and stays the same until another game is started. A frame of any episode leaves an
avatar that was seen where it is, and if it ends as ready, it is drawn: a view is complete, or the cursor was
moved to the avatar at the end and is there. That the cursor passes over the avatar while printing is not
enough.
-/
theorem avatar_anchored {config : Config} {calls : List Call}
    (reached : Runs (callAll polls (create config) calls) past episode) :
    (∀ place, episode.avatar = some place →
      (∃ earlier later before chunk rest,
        past = earlier ++ ⟨.launch config.terminal.size, true⟩ :: later ∧
        (∀ event ∈ later, isLaunch event.1 = false) ∧
        chunks later = before ++ chunk :: rest ∧
        ((Session.start config.terminal.size).receiveAll before).1.Sights chunk place ∧
        ∀ first other between, before = first ++ other :: between → ∀ elsewhere,
          ¬ ((Session.start config.terminal.size).receiveAll first).1.Sights other elsewhere) ∧
      config.terminal.size.atLeastOne.Contains place ∧
      ∀ more events after, Call.reset ∉ more → Runs (callAll polls episode more) events after →
        after.avatar = some place) ∧
    ∀ reader reading read frame?, Runs (readFrame polls reader) reading (read, frame?) →
      (∀ place, reader.avatar = some place → read.avatar = some place) ∧
      (read.ready = true → ∃ frame ∈ frame?, IsDrawn read frame) := by
  constructor
  · intro place seen
    have watched : Obeys anything Watches [] (callAll polls (create config) calls) :=
      courseKeeps_watches.callAll polls calls (.absent rfl rfl)
    have watches : Watches past episode := watched.of_runs reached
    have stays (more : List Call) (same : Call.reset ∉ more) :
        Obeys anything (fun _ after => after.avatar = some place) past (callAll polls episode more) :=
      (gameKeeps_avatar place).callAll polls same seen
    cases watches with
    | absent none_eq unseen => exact nomatch unseen.symm.trans seen
    | @game _ earlier size later kept some_eq seen_eq =>
        -- The game was launched with the configured extent, as every game of the episode.
        have asks : Obeys (AsksAsSet config) (fun _ after => after.settings = (create config).settings)
            [] (callAll polls (create config) calls) := callAll_asksAsSet polls calls rfl
        obtain rfl : size = config.terminal.size := asks.of_begins reached.begins
        obtain ⟨before, chunk, rest, chunks_eq, sights, unseen⟩ :=
          Lookout.exists_sighting (seen_eq.symm.trans seen)
        exact ⟨⟨earlier, later, before, chunk, rest, rfl, kept, chunks_eq, sights, unseen⟩,
          contains_of_sights sights, fun more events after same run => (stays more same).of_runs run⟩
  · intro reader reading read frame? run
    exact ⟨fun place seen => avatar_readFrame seen run, isDrawn_of_ready run⟩

/-- A game that begins at once and parks the cursor on its avatar. -/
def parkedGame : Rehearsal.Script :=
  { Rehearsal.easyGame [] with
    pending := (Rehearsal.easyGame []).pending ++ [some (Keys.ofText "\x1b[1;3H@\x1b[1;3H")] }

/-- The avatar of a parked game is seen in the third column and stays there for the next step. -/
theorem avatar_anchored_parked :
    ∃ past episode earlier later, Runs (callAll 4 (create Rehearsal.hasty) [.reset]) past episode ∧
      episode.avatar = some ⟨0, 2⟩ ∧
      past = earlier ++ ⟨.launch Rehearsal.hasty.terminal.size, true⟩ :: later ∧
      Rehearsal.hasty.terminal.size.atLeastOne.Contains ⟨0, 2⟩ ∧
      ∀ events after, Runs (callAll 4 episode [.step (Keys.ofText "o")]) events after →
        after.avatar = some ⟨0, 2⟩ := by
  have seen : ((run Rehearsal.host (callAll 4 (create Rehearsal.hasty) [.reset])
      (.of [some parkedGame])).1.bind fun episode => episode.avatar) = some ⟨0, 2⟩ := by
    decide +kernel
  obtain ⟨episode, yields, here⟩ := Option.bind_eq_some_iff.mp seen
  have reached := runs_transcript yields
  obtain ⟨⟨earlier, later, _, _, _, past_eq, -⟩, inside, stays⟩ := (avatar_anchored reached).1 _ here
  exact ⟨_, episode, earlier, later, reached, here, past_eq, inside,
    fun events after run => stays _ events after (by simp) run⟩

end Episode

end RoguePilot
