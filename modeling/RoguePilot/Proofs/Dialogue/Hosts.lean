import RoguePilot.Proofs.Dialogue.Conduct

/-!
# Hosts that answer alike

What a program comes to under a host depends on nothing but the answers it is given. Two hosts that
answer every sequence of requests alike therefore make the same of it, with the same exchanges,
whatever is different between them otherwise.
-/

namespace RoguePilot.Dialogue

variable {signature : Signature} {α β First Second State : Type}

/-- The exchanges of a program with a host. -/
def transcript (host : Host signature State) :
    Dialogue signature α → State → List (Exchange signature)
  | .done _, _ => []
  | .ask request resume, state =>
    ⟨request, (host.respond request state).1⟩ ::
      transcript host (resume (host.respond request state).1) (host.respond request state).2
  | .unfinished, _ => []

/-- A program that comes to its end under a host has run through the exchanges with it. -/
theorem runs_transcript {host : Host signature State} {program : Dialogue signature α}
    {state : State} {value : α} (yields : (run host program state).1 = some value) :
    Runs program (transcript host program state) value := by
  induction program generalizing state with
  | done result =>
      cases yields
      exact .done _
  | ask request resume induction => exact .ask (induction _ yields)
  | unfinished => cases yields

theorem run_of_transcript_nil {host : Host signature State} {program : Dialogue signature α}
    {state : State} (silent : transcript host program state = []) :
    (run host program state).2 = state := by
  cases program with
  | done value => rfl
  | ask request resume => cases silent
  | unfinished => rfl

/-- The host's last state is the one it came to with its last answer. -/
theorem respond_of_transcript_concat {host : Host signature State} {program : Dialogue signature α}
    {state : State} {earlier : List (Exchange signature)} {last : Exchange signature}
    (events_eq : transcript host program state = earlier ++ [last]) :
    ∃ before, host.respond last.1 before = (last.2, (run host program state).2) := by
  induction program generalizing state earlier with
  | done value => exact absurd events_eq.symm (List.concat_ne_nil _ _)
  | ask request resume induction =>
      cases earlier with
      | nil =>
          obtain ⟨rfl, silent⟩ := List.cons.inj events_eq
          exact ⟨state, Prod.ext rfl (run_of_transcript_nil silent).symm⟩
      | cons first earlier => exact induction _ (List.cons.inj events_eq).2
  | unfinished => exact absurd events_eq.symm (List.concat_ne_nil _ _)

/-- What is made of the value of a program is no part of the exchanges. -/
theorem run_map {host : Host signature State} (rewrite : α → β)
    (program : Dialogue signature α) (state : State) :
    (run host (rewrite <$> program) state).1 = (run host program state).1.map rewrite ∧
      transcript host (rewrite <$> program) state = transcript host program state := by
  induction program generalizing state with
  | done value => exact ⟨rfl, rfl⟩
  | ask request resume induction =>
      obtain ⟨value_eq, events_eq⟩ := induction _ (host.respond request state).2
      exact ⟨value_eq, congrArg _ events_eq⟩
  | unfinished => exact ⟨rfl, rfl⟩

theorem transcript_bind {host : Host signature State} {program : Dialogue signature α}
    {state after : State} {value : α} (ran : run host program state = (some value, after))
    (next : α → Dialogue signature β) :
    transcript host (program >>= next) state =
      transcript host program state ++ transcript host (next value) after := by
  induction program generalizing state with
  | done result =>
      cases ran
      rfl
  | ask request resume induction =>
      rw [ask_bind, transcript, transcript, List.cons_append, induction _ ran]
  | unfinished => cases ran

/-- Going on with another program does not change the exchanges before it. -/
theorem transcript_prefix_bind (host : Host signature State) (program : Dialogue signature α)
    (next : α → Dialogue signature β) (state : State) :
    transcript host program state <+: transcript host (program >>= next) state := by
  induction program generalizing state with
  | done value => exact List.nil_prefix
  | ask request resume induction =>
      rw [ask_bind, transcript, transcript]
      exact (List.prefix_cons_inj _).mpr (induction _ _)
  | unfinished => exact List.prefix_rfl

namespace Host

/-- The exchanges with a host that is asked the requests one after the other. -/
def exchanges (host : Host signature State) : State → List signature.Request →
    List (Exchange signature)
  | _, [] => []
  | state, request :: requests =>
    ⟨request, (host.respond request state).1⟩ ::
      host.exchanges (host.respond request state).2 requests

/-- A host that answers as in a run brings the program to the same value. -/
theorem run_of_runs {host : Host signature State} {program : Dialogue signature α} {state : State}
    {events : List (Exchange signature)} {value : α} (runs : Runs program events value)
    (answers : host.exchanges state (events.map Sigma.fst) = events) :
    (run host program state).1 = some value := by
  induction runs generalizing state with
  | done value => rfl
  | @ask request resume answer events value rest induction =>
      obtain ⟨answer_eq, later⟩ := List.cons.inj answers
      have told : (host.respond request state).1 = answer := eq_of_heq (Sigma.mk.inj answer_eq).2
      subst told
      exact induction later

/-- Whatever is asked that is allowed, the two hosts answer it alike from here on. -/
def Alike (allowed : signature.Request → Prop) (first : Host signature First) (one : First)
    (second : Host signature Second) (other : Second) : Prop :=
  ∀ requests : List signature.Request, (∀ request ∈ requests, allowed request) →
    first.exchanges one requests = second.exchanges other requests

variable {allowed : signature.Request → Prop} {first : Host signature First} {one : First}
  {second : Host signature Second} {other : Second} {request : signature.Request}

theorem Alike.refl (allowed : signature.Request → Prop) (host : Host signature State)
    (state : State) : Alike allowed host state host state :=
  fun _ _ => rfl

theorem Alike.answer_eq (alike : Alike allowed first one second other)
    (ok : allowed request) :
    (first.respond request one).1 = (second.respond request other).1 := by
  have asks : ∀ asked ∈ [request], allowed asked := by simpa using ok
  have exchange_eq := (List.cons.inj (alike [request] asks)).1
  exact eq_of_heq (Sigma.mk.inj exchange_eq).2

theorem Alike.after (alike : Alike allowed first one second other) (ok : allowed request) :
    Alike allowed first (first.respond request one).2 second (second.respond request other).2 := by
  intro requests all
  exact (List.cons.inj (alike (request :: requests) (List.forall_mem_cons.mpr ⟨ok, all⟩))).2

/-- Hosts that answer alike make the same of a program that asks only what is allowed. -/
theorem Alike.run_eq {past : List (Exchange signature)}
    {post : List (Exchange signature) → α → Prop} (alike : Alike allowed first one second other)
    {program : Dialogue signature α} (obeys : Obeys (fun _ => allowed) post past program) :
    (run first program one).1 = (run second program other).1 ∧
      transcript first program one = transcript second program other := by
  induction program generalizing past one other with
  | done value => exact ⟨rfl, rfl⟩
  | ask request resume induction =>
      have answer_eq := alike.answer_eq obeys.1
      have later := alike.after obeys.1
      simp only [run, transcript, answer_eq]
      obtain ⟨value_eq, events_eq⟩ := induction _ later (obeys.2 _)
      exact ⟨value_eq, congrArg _ events_eq⟩
  | unfinished => exact ⟨rfl, rfl⟩

end Host

end RoguePilot.Dialogue
