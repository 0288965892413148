import RoguePilot.Proofs.Play.CleanSlate

/-!
# The course of an episode

What is known of a game by what has happened changes with its output only, that is with its frames, and when
another game is launched. Such a property of what has happened and of the episode is kept by all calls if it
is kept by frames and holds of every game that was just launched, or could not be.
-/

namespace RoguePilot

open Dialogue

namespace Play

/-- The request does not bring anything of a game. -/
def isCommand : Request → Bool
  | .write _ => true
  | .isRunning => true
  | .terminate _ => true
  | _ => false

end Play

namespace Episode

open Play

/-- A property of what has happened and of the episode is kept by everything that can happen to a game. -/
structure GameKeeps (holds : List Event → Episode → Prop) : Prop where
  /-- It depends on what is known of the game only. -/
  of_eq : ∀ {past before after}, holds past before → after.session = before.session →
    after.avatar = before.avatar → after.snapshot = before.snapshot → holds past after
  /-- It is kept by whatever brings nothing of the game. -/
  command : ∀ {past episode} (event : Event), isCommand event.1 = true → holds past episode →
    holds (past ++ [event]) episode
  /-- It is kept by a frame. -/
  advance : ∀ {past episode} (polls : Nat), holds past episode →
    Obeys anything (fun later result => holds later result.1) past (advance polls episode)
  /-- It is kept when the session is given up. -/
  closed : ∀ {past episode}, holds past episode → holds past { episode with session := none }

/-- The property is kept by games, and begins to hold with every new one. -/
structure CourseKeeps (holds : List Event → Episode → Prop) : Prop extends GameKeeps holds where
  /-- It holds of a game that was just launched. -/
  launched : ∀ past (episode : Episode),
    holds (past ++ [⟨.launch episode.next.size, true⟩]) episode.next.connected
  /-- It holds if a game could not be launched. -/
  refused : ∀ past (episode : Episode),
    holds (past ++ [⟨.launch episode.next.size, false⟩]) episode.next.refused

section

variable {holds : List Event → Episode → Prop} {past : List Event} {episode : Episode}

namespace GameKeeps

theorem send (keeps : GameKeeps holds) (keys : List UInt8) (here : holds past episode) :
    Obeys anything holds past (episode.send keys) := by
  unfold Episode.send
  split
  · exact here
  · rw [obeys_bind, obeys_write]
    refine ⟨trivial, fun accepted => ?_⟩
    exact keeps.of_eq (keeps.command ⟨.write keys, accepted⟩ rfl here) rfl rfl rfl

theorem awaitStart (keeps : GameKeeps holds) (polls attempts : Nat) (weaponChosen : Bool)
    (here : holds past episode) :
    Obeys anything (fun later result => holds later result.1) past
      (awaitStart polls attempts weaponChosen episode) := by
  induction attempts generalizing past weaponChosen episode with
  | zero => exact here
  | succ attempts induction =>
      rw [Episode.awaitStart, obeys_bind]
      refine (keeps.advance polls here).mono ?_
      rintro later ⟨after, reward⟩ there
      dsimp only
      split
      · exact there
      · split
        · exact there
        · split
          · rw [obeys_bind]
            refine (keeps.send after.weaponKey there).mono ?_
            exact fun typed chosen still => induction true still
          · exact induction weaponChosen there

theorem close (keeps : GameKeeps holds) (here : holds past episode) :
    Obeys anything holds past episode.close := by
  unfold Episode.close
  split
  · exact here
  · rw [obeys_bind, obeys_isRunning]
    refine ⟨trivial, fun running => ?_⟩
    have asked := keeps.command ⟨.isRunning, running⟩ rfl here
    split
    · rw [obeys_bind]
      refine ⟨trivial, fun accepted => ⟨trivial, fun stopped => ?_⟩⟩
      have quits := keeps.command ⟨.write quitKeys, accepted⟩ rfl asked
      exact keeps.closed (keeps.command ⟨.terminate _, stopped⟩ rfl quits)
    · rw [obeys_bind, obeys_terminate]
      refine ⟨trivial, fun stopped => ?_⟩
      exact keeps.closed (keeps.command ⟨.terminate _, stopped⟩ rfl asked)

theorem step (keeps : GameKeeps holds) (polls : Nat) (action : List UInt8)
    (here : holds past episode) :
    Obeys anything (fun later result => holds later result.1) past (episode.step polls action) := by
  unfold Episode.step
  split
  · exact here
  · have counted : holds past episode.countStep := keeps.of_eq here rfl rfl rfl
    rw [obeys_bind]
    refine (keeps.send action counted).mono ?_
    intro sent_past sent still
    dsimp only
    split
    · exact keeps.of_eq still rfl rfl rfl
    · rw [obeys_bind]
      refine (keeps.advance polls still).mono ?_
      rintro later ⟨after, reward⟩ there
      exact keeps.of_eq there rfl rfl rfl

theorem call (keeps : GameKeeps holds) (polls : Nat) {next : Call} (same : next ≠ .reset)
    (here : holds past episode) : Obeys anything holds past (call polls episode next) := by
  cases next with
  | reset => exact absurd rfl same
  | step action =>
      rw [Episode.call, obeys_bind]
      exact keeps.step polls action here
  | close => exact keeps.close here

/-- What holds of a game holds after any calls that do not start another one. -/
theorem callAll (keeps : GameKeeps holds) (polls : Nat) {calls : List Call} (same : Call.reset ∉ calls)
    (here : holds past episode) : Obeys anything holds past (callAll polls episode calls) := by
  induction calls generalizing past episode with
  | nil => exact here
  | cons next later induction =>
      obtain ⟨not_reset, later_same⟩ := not_or.mp (mt List.mem_cons.mpr same)
      rw [Episode.callAll, obeys_bind]
      exact (keeps.call polls (Ne.symm not_reset) here).mono fun _ _ there => induction later_same there

end GameKeeps

namespace CourseKeeps

/-- Whatever has happened before, the property holds of an episode that was started. -/
theorem reset (keeps : CourseKeeps holds) (past : List Event) (polls : Nat) (episode : Episode) :
    Obeys anything (fun later result => holds later result.1) past (episode.reset polls) := by
  rw [reset_eq, obeys_bind]
  refine (obeys_anything past _).mono ?_
  rintro closed_past closed -
  rw [obeys_bind, obeys_launch]
  refine ⟨trivial, fun launched => ?_⟩
  cases launched with
  | false => exact keeps.refused closed_past closed
  | true =>
      rw [afterLaunch, obeys_bind]
      refine (keeps.awaitStart polls _ false (keeps.launched closed_past closed)).mono ?_
      rintro later ⟨waited, begun⟩ there
      exact keeps.of_eq there rfl rfl rfl

theorem call (keeps : CourseKeeps holds) (polls : Nat) (next : Call) (here : holds past episode) :
    Obeys anything holds past (call polls episode next) := by
  by_cases restarts : next = .reset
  · rw [restarts, Episode.call, obeys_bind]
    exact keeps.reset past polls episode
  · exact keeps.toGameKeeps.call polls restarts here

/-- What holds before any calls holds after them. -/
theorem callAll (keeps : CourseKeeps holds) (polls : Nat) (calls : List Call)
    (here : holds past episode) : Obeys anything holds past (callAll polls episode calls) := by
  induction calls generalizing past episode with
  | nil => exact here
  | cons next later induction =>
      rw [Episode.callAll, obeys_bind]
      exact (keeps.call polls next here).mono fun _ _ there => induction there

end CourseKeeps

end

end Episode

end RoguePilot
