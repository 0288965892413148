import RoguePilot.Proofs.Play.CleanSlate

/-!
# The life of a game

Every game that is started is stopped, once, before another start is attempted or when the episode is
closed for good. Until then it is asked what it is asked, and afterwards nothing. So at any moment, also
in the middle of a call, one game is on at most.
-/

namespace RoguePilot

open Dialogue

namespace Play

/-- The request neither starts nor stops a game. -/
def keepsGame : Request → Bool
  | .launch _ => false
  | .terminate _ => false
  | _ => true

/-! ## Games that are over -/

/-- Every game that was started has been stopped, once, and nothing was asked of a game in between. -/
inductive AllStopped : List Event → Prop where
  /-- Nothing has happened. -/
  | nothing : AllStopped []
  /-- The clock was looked at. -/
  | clock {past : List Event} (stopped : AllStopped past) (time : Nat) :
      AllStopped (past ++ [⟨.clock, time⟩])
  /-- A game could not be started. -/
  | refused {past : List Event} (stopped : AllStopped past) (size : Size) :
      AllStopped (past ++ [⟨.launch size, false⟩])
  /-- A game was started, was played, and was stopped. -/
  | game {past playing : List Event} (stopped : AllStopped past) (size : Size)
      (kept : ∀ event ∈ playing, keepsGame event.1 = true) (milliseconds : Nat) :
      AllStopped (past ++ ⟨.launch size, true⟩ :: playing ++ [⟨.terminate milliseconds, ()⟩])

/-- The game that was started last is on, and every game before it has been stopped. -/
inductive OneOn : List Event → Prop where
  /-- A game was started and is played. -/
  | game {past playing : List Event} (stopped : AllStopped past) (size : Size)
      (kept : ∀ event ∈ playing, keepsGame event.1 = true) :
      OneOn (past ++ ⟨.launch size, true⟩ :: playing)

variable {past : List Event}

theorem AllStopped.launched (stopped : AllStopped past) (size : Size) :
    OneOn (past ++ [⟨.launch size, true⟩]) :=
  .game stopped size (List.forall_mem_nil _)

theorem OneOn.asked (on : OneOn past) {event : Event} (keeps : keepsGame event.1 = true) :
    OneOn (past ++ [event]) := by
  cases on with
  | game stopped size kept =>
      rw [List.append_assoc, List.cons_append]
      exact .game stopped size (List.forall_mem_append.mpr ⟨kept, List.forall_mem_singleton.mpr keeps⟩)

theorem OneOn.terminated (on : OneOn past) (milliseconds : Nat) (answer : Unit) :
    AllStopped (past ++ [⟨.terminate milliseconds, answer⟩]) := by
  cases on with
  | game stopped size kept => exact .game stopped size kept milliseconds

/-! ## One game at a time -/

/-- A game is started when none is on, and only a game that is on is asked anything. -/
def TendsOneGame : Rule
  | past, .launch _ => AllStopped past
  | past, .clock => AllStopped past ∨ OneOn past
  | past, _ => OneOn past

/-- There is a session while a game is on. -/
def SessionOfGame : Link := fun past session _ =>
  match session with
  | none => AllStopped past
  | some _ => OneOn past

theorem callingKeeps_sessionOfGame : CallingKeeps TendsOneGame SessionOfGame where
  clock {past session failed} here := by
    cases session with
    | none => exact ⟨.inl here, fun time => AllStopped.clock here time⟩
    | some session => exact ⟨.inr here, fun time => OneOn.asked here rfl⟩
  poll _ on := ⟨on, fun _ => OneOn.asked on rfl, fun _ _ => OneOn.asked on rfl⟩
  write _ on := ⟨on, fun _ => OneOn.asked on rfl⟩
  isRunning on := ⟨on, fun _ => OneOn.asked on rfl⟩
  terminate milliseconds on := ⟨on, OneOn.terminated on milliseconds⟩
  quit milliseconds on :=
    ⟨on, fun _ => ⟨OneOn.asked on rfl, OneOn.terminated (OneOn.asked on rfl) milliseconds⟩⟩
  launch size stopped := ⟨stopped, AllStopped.launched stopped size, AllStopped.refused stopped size⟩
  giveUp here := here

/-- What is asked by the rule leaves at most one game on. -/
theorem TendsOneGame.after {event : Event} (tends : TendsOneGame past event.1) :
    AllStopped (past ++ [event]) ∨ OneOn (past ++ [event]) := by
  obtain ⟨request, answer⟩ := event
  cases request with
  | launch size =>
      cases answer with
      | false => exact .inl (.refused tends size)
      | true => exact .inr (AllStopped.launched tends size)
  | write keys => exact .inr (OneOn.asked tends rfl)
  | poll milliseconds => exact .inr (OneOn.asked tends rfl)
  | clock =>
      rcases tends with stopped | on
      · exact .inl (.clock stopped answer)
      · exact .inr (on.asked rfl)
  | isRunning => exact .inr (OneOn.asked tends rfl)
  | terminate milliseconds => exact .inl (OneOn.terminated tends milliseconds answer)

end Play

namespace Episode

open Play

/-! ## As configured -/

/-- Games are started and stopped with what is configured. -/
def IsAsSet (config : Config) : Request → Prop
  | .launch size => size = config.terminal.size
  | .terminate milliseconds => milliseconds = config.timing.quitGrace
  | _ => True

/-- Whatever has happened, games are started and stopped with what is configured. -/
def AsksAsSet (config : Config) : Rule := fun _ request => IsAsSet config request

variable {config : Config} {episode : Episode} {past : List Event}

theorem playingKeeps_asksAsSet :
    PlayingKeeps (AsksAsSet config) fun _ _ _ => True where
  clock _ := ⟨trivial, fun _ => trivial⟩
  poll _ _ := ⟨trivial, fun _ => trivial, fun _ _ => trivial⟩
  write _ _ := ⟨trivial, fun _ => trivial⟩

theorem close_asksAsSet (same : episode.settings = (create config).settings) :
    Obeys (AsksAsSet config) (fun _ closed => closed.settings = (create config).settings) past
      episode.close := by
  have grace_eq : episode.timing.quitGrace = config.timing.quitGrace :=
    congrArg (fun settings => settings.2.1.quitGrace) same
  unfold close
  split
  · exact same
  · rw [obeys_bind, obeys_isRunning]
    refine ⟨trivial, fun running => ?_⟩
    split
    · rw [obeys_bind]
      exact ⟨trivial, fun _ => ⟨grace_eq, fun _ => same⟩⟩
    · rw [obeys_bind]
      exact ⟨grace_eq, fun _ => same⟩

theorem call_asksAsSet (polls : Nat) (next : Call)
    (same : episode.settings = (create config).settings) :
    Obeys (AsksAsSet config) (fun _ after => after.settings = (create config).settings) past
      (call polls episode next) := by
  cases next with
  | reset =>
      have asks : Obeys (AsksAsSet config) (fun _ _ => True) past
          (call polls episode .reset) := by
        rw [call, obeys_bind, reset, obeys_bind]
        refine (close_asksAsSet same).mono ?_
        rintro closed_past closed still
        have size_eq : closed.next.size = config.terminal.size := congrArg Prod.fst still
        rw [obeys_bind, obeys_launch]
        refine ⟨size_eq, fun launched => ?_⟩
        split
        · rw [obeys_bind]
          exact (awaitStart_obeys playingKeeps_asksAsSet polls _ false trivial).mono fun _ _ _ => trivial
        · trivial
      exact (asks.and_ensures (call_settings polls episode .reset)).mono
        fun _ _ kept => kept.2.trans same
  | step action =>
      have asks : Obeys (AsksAsSet config) (fun _ _ => True) past
          (call polls episode (.step action)) := by
        rw [call, obeys_bind]
        exact (step_obeys playingKeeps_asksAsSet polls action trivial).mono fun _ _ _ => trivial
      exact (asks.and_ensures (call_settings polls episode (.step action))).mono
        fun _ _ kept => kept.2.trans same
  | close => exact close_asksAsSet same

theorem callAll_asksAsSet (polls : Nat) (calls : List Call)
    (same : episode.settings = (create config).settings) :
    Obeys (AsksAsSet config) (fun _ after => after.settings = (create config).settings) past
      (callAll polls episode calls) := by
  induction calls generalizing past episode with
  | nil => exact same
  | cons next later induction =>
      rw [callAll, obeys_bind]
      refine (call_asksAsSet polls next same).mono ?_
      intro called_past after still
      exact induction still

/-! ## Whole lives -/

/-- What becomes of a new episode by calls, until it is closed for good. -/
def lifetime (polls : Nat) (config : Config) (calls : List Call) : Play.Program Episode := do
  (← callAll polls (create config) calls).close

theorem lifetime_tends (polls : Nat) (config : Config) (calls : List Call) :
    Obeys TendsOneGame (fun past _ => AllStopped past) [] (lifetime polls config calls) := by
  have new : (create config).Linked SessionOfGame [] := AllStopped.nothing
  rw [lifetime, obeys_bind]
  refine (callAll_obeys callingKeeps_sessionOfGame polls calls new).mono ?_
  intro called_past after still
  refine (close_obeys callingKeeps_sessionOfGame still).mono ?_
  rintro closed_past closed ⟨linked, absent⟩
  rw [Linked, absent] at linked
  exact linked

theorem lifetime_asksAsSet (polls : Nat) (config : Config) (calls : List Call) :
    Obeys (AsksAsSet config) (fun _ _ => True) [] (lifetime polls config calls) := by
  rw [lifetime, obeys_bind]
  refine (callAll_asksAsSet polls calls rfl).mono ?_
  intro called_past after still
  exact (close_asksAsSet still).mono fun _ _ _ => trivial

theorem close_of_closed (absent : episode.session = none) : episode.close = pure episode := by
  rw [close, absent]
  rfl

/--
Whatever is answered to the calls of a new episode: at every moment all games that were started have been
stopped, each once and with nothing asked of it afterwards, except that the one started last may be on;
they are started and stopped as configured. When the episode has been closed for good, none is left on.
Closing it again asks nothing.
-/
theorem games_stopped_once (config : Config) (polls : Nat) (calls : List Call) :
    (∀ events, Begins (lifetime polls config calls) events →
      (AllStopped events ∨ OneOn events) ∧ ∀ event ∈ events, IsAsSet config event.1) ∧
    (∀ events closed, Runs (lifetime polls config calls) events closed → AllStopped events) ∧
    ∀ before events closed, Runs (close before) events closed → closed.close = pure closed := by
  refine ⟨?_, ?_, ?_⟩
  · intro events begins
    constructor
    · -- What was asked last was allowed after everything before it.
      rcases List.eq_nil_or_concat events with rfl | ⟨earlier, last, rfl⟩
      · exact .inl .nothing
      · rw [List.concat_eq_append] at begins ⊢
        exact TendsOneGame.after ((lifetime_tends polls config calls).of_begins begins)
    · intro event member
      obtain ⟨earlier, later, rfl⟩ := List.append_of_mem member
      exact (lifetime_asksAsSet polls config calls).of_begins begins
  · intro events closed run
    exact (lifetime_tends polls config calls).of_runs run
  · intro before events closed run
    obtain rfl : closed = { before with session := none } :=
      (ensures_iff_runs _).mp (close_ensures before) events closed run
    exact close_of_closed rfl

end Episode

end RoguePilot
