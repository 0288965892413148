import RoguePilot.Play.Request

/-!
# Rehearsals

A rehearsal is a host whose games follow scripts. A script says what a game shows at first, what it shows
in answer to which keys, and which keys it refuses. Time passes only while a rehearsed game has nothing to
show, and everything an episode does to its games is recorded.
-/

namespace RoguePilot.Play.Rehearsal

/-- What one wait for output brings: a chunk, or nothing, but at once. -/
abbrev Entry : Type := Option (List UInt8)

/-- How a rehearsed game reacts to keys. -/
structure Rule where
  /-- The keys it reacts to; any keys if there are none. -/
  keys : Option (List UInt8)
  /-- What it shows then. -/
  entries : List Entry
  /-- How often it still reacts so; without end if there is no number. -/
  usesLeft : Option Nat
deriving DecidableEq, Repr

/-- The rule applies to the keys. -/
def Rule.applies (rule : Rule) (typed : List UInt8) : Bool :=
  (rule.usesLeft ≠ some 0) &&
    match rule.keys with
    | none => true
    | some keys => keys = typed

/-- What a game shows in answer to keys by the first rule that applies, and the rules after it. -/
def react (typed : List UInt8) : List Rule → List Entry × List Rule
  | [] => ([], [])
  | rule :: rules =>
    if rule.applies typed then
      (rule.entries, { rule with usesLeft := rule.usesLeft.map (· - 1) } :: rules)
    else ((react typed rules).1, rule :: (react typed rules).2)

/-- A rehearsed game. -/
structure Script where
  /-- What it still has to show. -/
  pending : List Entry
  /-- How it reacts to keys. -/
  rules : List Rule
  /-- The numbers of the typings it refuses, counted from zero. -/
  refusals : List Nat
  /-- It says that output can still come. -/
  running : Bool
  /-- How often keys have been typed. -/
  typings : Nat
deriving Repr

/-- The script after keys were typed, and whether it accepted them. -/
def Script.type (script : Script) (keys : List UInt8) : Bool × Script :=
  if script.refusals.contains script.typings then
    (false, { script with typings := script.typings + 1 })
  else
    let reaction := react keys script.rules
    (true,
      { script with
        pending := script.pending ++ reaction.1
        rules := reaction.2
        typings := script.typings + 1 })

/-- What an episode did to a game. -/
inductive Event where
  /-- A game was to be started. -/
  | launched (size : Size)
  /-- Keys were typed and accepted. -/
  | typed (keys : List UInt8)
  /-- Keys were typed and refused. -/
  | refused (keys : List UInt8)
  /-- The game was stopped. -/
  | stopped (milliseconds : Nat)
deriving DecidableEq, Repr

/-- The state of a rehearsal. -/
structure Stage where
  /-- The games to come; a start that is to fail has none. -/
  upcoming : List (Option Script)
  /-- The game that is on. -/
  current : Option Script
  /-- The clock, in nanoseconds. -/
  clock : Nat
  /-- What has been done so far. -/
  events : List Event
deriving Repr

/-- A rehearsal of the given games. -/
def Stage.of (scripts : List (Option Script)) : Stage :=
  ⟨scripts, none, 0, []⟩

/-- The stage with one more event. -/
def Stage.record (stage : Stage) (event : Event) : Stage :=
  { stage with events := stage.events ++ [event] }

/-- Starts the next game. -/
def Stage.launch (stage : Stage) (size : Size) : Bool × Stage :=
  let recorded := stage.record (.launched size)
  match stage.upcoming with
  | [] => (false, recorded)
  | next :: later => (next.isSome, { recorded with upcoming := later, current := next })

/-- Types keys. -/
def Stage.write (stage : Stage) (keys : List UInt8) : Bool × Stage :=
  match stage.current with
  | none => (false, stage)
  | some script =>
    let reaction := script.type keys
    (reaction.1,
      { stage.record (if reaction.1 then .typed keys else .refused keys) with
        current := some reaction.2 })

/-- Waits for output. With nothing left to show, the wait takes all its time, and never no time at all. -/
def Stage.poll (stage : Stage) (milliseconds : Nat) : Reading × Stage :=
  let late := stage.clock + max milliseconds 1 * 1000000
  match stage.current with
  | none => (⟨none, late⟩, { stage with clock := late })
  | some script =>
    match script.pending with
    | [] => (⟨none, late⟩, { stage with clock := late })
    | entry :: entries =>
      (⟨entry, stage.clock⟩, { stage with current := some { script with pending := entries } })

/-- Answers a request of an episode. -/
def respond : (request : Request) → Stage → Answer request × Stage
  | .launch size, stage => stage.launch size
  | .write keys, stage => stage.write keys
  | .poll milliseconds, stage => stage.poll milliseconds
  | .clock, stage => (stage.clock, stage)
  | .isRunning, stage => ((stage.current.map Script.running).getD false, stage)
  | .terminate milliseconds, stage =>
    ((), { stage.record (.stopped milliseconds) with current := none })

/-- The host of a rehearsal. -/
def host : Dialogue.Host signature Stage := ⟨respond⟩

end RoguePilot.Play.Rehearsal
