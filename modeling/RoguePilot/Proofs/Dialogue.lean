import RoguePilot.Dialogue

/-!
# What a dialogue ensures

A dialogue ensures a property if every value it can be done with has it, whatever it is answered on
the way. A dialogue that is stopped before its end is never done, so it ensures everything.
-/

namespace RoguePilot.Dialogue

variable {signature : Signature} {α β : Type}

/-- Every value the program can be done with has the property. -/
def Ensures (post : α → Prop) : Dialogue signature α → Prop
  | .done value => post value
  | .ask _ resume => ∀ answer, Ensures post (resume answer)
  | .unfinished => True

@[simp] theorem ensures_done {post : α → Prop} {value : α} :
    (Dialogue.done value : Dialogue signature α).Ensures post ↔ post value := Iff.rfl

@[simp] theorem ensures_ask {post : α → Prop} {request : signature.Request}
    {resume : signature.Answer request → Dialogue signature α} :
    (Dialogue.ask request resume).Ensures post ↔ ∀ answer, (resume answer).Ensures post := Iff.rfl

@[simp] theorem ensures_unfinished {post : α → Prop} :
    (Dialogue.unfinished : Dialogue signature α).Ensures post ↔ True := Iff.rfl

/-- A program that goes on with another ensures what the other one ensures of each of its values. -/
@[simp] theorem ensures_bind {post : β → Prop} (program : Dialogue signature α)
    (next : α → Dialogue signature β) :
    (program >>= next).Ensures post ↔ program.Ensures fun value => (next value).Ensures post := by
  induction program with
  | done value => rfl
  | ask request resume induction =>
      simp only [ask_bind, ensures_ask, induction]
  | unfinished => rfl

theorem Ensures.mono {post weaker : α → Prop} {program : Dialogue signature α}
    (ensures : program.Ensures post) (weaken : ∀ value, post value → weaker value) :
    program.Ensures weaker := by
  induction program with
  | done value => exact weaken value ensures
  | ask request resume induction =>
      intro answer
      exact induction answer (ensures answer)
  | unfinished => trivial

theorem Ensures.and {first second : α → Prop} {program : Dialogue signature α}
    (one : program.Ensures first) (other : program.Ensures second) :
    program.Ensures fun value => first value ∧ second value := by
  induction program with
  | done value => exact ⟨one, other⟩
  | ask request resume induction =>
      intro answer
      exact induction answer (one answer) (other answer)
  | unfinished => trivial

theorem Ensures.of_forall {post : α → Prop} {program : Dialogue signature α}
    (all : ∀ value, post value) : program.Ensures post := by
  induction program with
  | done value => exact all value
  | ask request resume induction => exact induction
  | unfinished => trivial

theorem Ensures.of_run {post : α → Prop} {State : Type} {host : Host signature State}
    {program : Dialogue signature α} {state : State} {value : α} (ensures : program.Ensures post)
    (yields : (run host program state).1 = some value) : post value := by
  induction program generalizing state with
  | done result =>
      cases yields
      exact ensures
  | ask request resume induction => exact induction _ (ensures _) yields
  | unfinished => cases yields

/-- It is enough that two continuations agree on the values that the program can be done with. -/
theorem bind_congr_of_ensures {post : α → Prop} {program : Dialogue signature α}
    {first second : α → Dialogue signature β} (ensures : program.Ensures post)
    (agree : ∀ value, post value → first value = second value) : program >>= first = program >>= second := by
  induction program with
  | done value => exact agree value ensures
  | ask request resume induction =>
      rw [ask_bind, ask_bind]
      exact congrArg _ (funext fun answer => induction answer (ensures answer))
  | unfinished => rfl

/-! ## Programs within other programs -/

section Translation

variable {target : Signature} {respond : (request : signature.Request) → Dialogue target (signature.Answer request)}

theorem translate_map (rewrite : α → β) (program : Dialogue signature α) :
    (rewrite <$> program).translate respond = rewrite <$> program.translate respond := by
  induction program with
  | done value => rfl
  | ask request resume induction =>
      have resumed : (rewrite <$> Dialogue.ask request resume).translate respond =
          respond request >>= fun answer => (rewrite <$> resume answer).translate respond := rfl
      rw [resumed, translate, map_bind]
      exact bind_congr induction
  | unfinished => rfl

theorem Ensures.translate {post : α → Prop} {program : Dialogue signature α} (ensures : program.Ensures post) :
    (program.translate respond).Ensures post := by
  induction program with
  | done value => exact ensures
  | ask request resume induction =>
      rw [Dialogue.translate, ensures_bind]
      exact .of_forall fun answer => induction answer (ensures answer)
  | unfinished => trivial

end Translation

/-- A property is ensured just when every run that comes to its end yields a value with it. -/
theorem ensures_iff_runs {post : α → Prop} (program : Dialogue signature α) :
    program.Ensures post ↔ ∀ events value, Runs program events value → post value := by
  induction program with
  | done value =>
      constructor
      · intro ensures events result run
        cases run
        exact ensures
      · intro all
        exact all [] value (.done value)
  | ask request resume induction =>
      constructor
      · intro ensures events result run
        cases run with
        | @ask _ _ answer events _ rest =>
            exact (induction answer).mp (ensures answer) events result rest
      · intro all answer
        refine (induction answer).mpr ?_
        intro events result rest
        exact all _ result (.ask rest)
  | unfinished =>
      constructor
      · intro _ events result run
        cases run
      · intro _
        trivial

end RoguePilot.Dialogue
