/-!
# Dialogues with the outside

A program that depends on the outside is written as a dialogue: it asks one request after the other and
goes on with the answers, until it is done. Nothing happens by itself; a host answers the requests. So
one and the same program can be run against the real world, against a rehearsed one, or against every
conceivable sequence of answers at once.
-/

namespace RoguePilot

/-- The requests a program may ask, and what counts as an answer to each. -/
structure Signature where
  /-- What can be asked. -/
  Request : Type
  /-- The answers to a request. -/
  Answer : Request → Type

/-- A program that asks requests of a signature before it yields a value. -/
inductive Dialogue (signature : Signature) (α : Type) : Type where
  /-- The program is over. -/
  | done (value : α)
  /-- The program asks, and goes on with the answer. -/
  | ask (request : signature.Request) (resume : signature.Answer request → Dialogue signature α)
  /-- The program was stopped before its end, because it was only allowed so many requests. -/
  | unfinished

namespace Dialogue

variable {signature : Signature} {α β γ : Type}

/-- Goes on with what a program yields. -/
def andThen : Dialogue signature α → (α → Dialogue signature β) → Dialogue signature β
  | .done value, next => next value
  | .ask request resume, next => .ask request fun answer => andThen (resume answer) next
  | .unfinished, _ => .unfinished

instance : Monad (Dialogue signature) where
  pure := done
  bind := andThen

@[simp] theorem pure_eq_done (value : α) :
    (pure value : Dialogue signature α) = .done value := rfl

@[simp] theorem done_bind (value : α) (next : α → Dialogue signature β) :
    Dialogue.done value >>= next = next value := rfl

@[simp] theorem ask_bind (request : signature.Request)
    (resume : signature.Answer request → Dialogue signature α) (next : α → Dialogue signature β) :
    Dialogue.ask request resume >>= next = .ask request fun answer => resume answer >>= next := rfl

@[simp] theorem unfinished_bind (next : α → Dialogue signature β) :
    (Dialogue.unfinished : Dialogue signature α) >>= next = .unfinished := rfl

theorem bind_done (program : Dialogue signature α) : program >>= Dialogue.done = program := by
  induction program with
  | done value => rfl
  | ask request resume induction => simp [induction]
  | unfinished => rfl

theorem bind_assoc (program : Dialogue signature α) (first : α → Dialogue signature β)
    (second : β → Dialogue signature γ) :
    program >>= first >>= second = program >>= fun value => first value >>= second := by
  induction program with
  | done value => rfl
  | ask request resume induction => simp [induction]
  | unfinished => rfl

instance : LawfulMonad (Dialogue signature) :=
  LawfulMonad.mk' (Dialogue signature) bind_done (fun _ _ => rfl) bind_assoc

/-- A request and its answer, as one event. -/
abbrev Exchange (signature : Signature) : Type :=
  (request : signature.Request) × signature.Answer request

/-- What a host does: it answers every request, depending on its own state. -/
structure Host (signature : Signature) (State : Type) where
  /-- The answer to a request, and the state after it. -/
  respond : (request : signature.Request) → State → signature.Answer request × State

/-- Runs a program against a host: the value, if it came to its end, and the host's last state. -/
def run {State : Type} (host : Host signature State) :
    Dialogue signature α → State → Option α × State
  | .done value, state => (some value, state)
  | .ask request resume, state =>
    run host (resume (host.respond request state).1) (host.respond request state).2
  | .unfinished, state => (none, state)

/-- Runs a program within any monad in which the requests can be answered. -/
def interpret {m : Type → Type} [Monad m]
    (respond : (request : signature.Request) → m (signature.Answer request)) :
    Dialogue signature α → m (Option α)
  | .done value => pure (some value)
  | .ask request resume => do
    let answer ← respond request
    interpret respond (resume answer)
  | .unfinished => pure none

/-- Answers the requests of one signature by programs of another one. -/
def translate {target : Signature}
    (respond : (request : signature.Request) → Dialogue target (signature.Answer request)) :
    Dialogue signature α → Dialogue target α
  | .done value => .done value
  | .ask request resume => respond request >>= fun answer => translate respond (resume answer)
  | .unfinished => .unfinished

/-- The program yields the value when its requests are answered as in the given sequence of events. -/
inductive Runs : Dialogue signature α → List (Exchange signature) → α → Prop where
  | done (value : α) : Runs (.done value) [] value
  | ask {request : signature.Request} {resume : signature.Answer request → Dialogue signature α}
      {answer : signature.Answer request} {events : List (Exchange signature)} {value : α}
      (rest : Runs (resume answer) events value) :
      Runs (.ask request resume) (⟨request, answer⟩ :: events) value

theorem run_bind {State : Type} (host : Host signature State) (program : Dialogue signature α)
    (next : α → Dialogue signature β) (state : State) :
    run host (program >>= next) state =
      match run host program state with
      | (some value, after) => run host (next value) after
      | (none, after) => (none, after) := by
  induction program generalizing state with
  | done value => rfl
  | ask request resume induction => simpa [run] using induction _ _
  | unfinished => rfl

end Dialogue

end RoguePilot
