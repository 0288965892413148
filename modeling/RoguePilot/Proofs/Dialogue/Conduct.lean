import RoguePilot.Proofs.Dialogue

/-!
# The conduct of a dialogue

What a dialogue may ask can depend on what has happened so far. A dialogue obeys a rule if it asks
nothing the rule does not allow after the exchanges before it, whatever it is answered, and also if it
is stopped half-way. What it is done with may be related to everything that has happened until then.
-/

namespace RoguePilot.Dialogue

variable {signature : Signature} {α β : Type}

/-! ## Exchanges of a program -/

/-- The program may begin with these exchanges; it need not come to its end. -/
inductive Begins : Dialogue signature α → List (Exchange signature) → Prop where
  | nil (program : Dialogue signature α) : Begins program []
  | ask {request : signature.Request} {resume : signature.Answer request → Dialogue signature α}
      {answer : signature.Answer request} {events : List (Exchange signature)}
      (rest : Begins (resume answer) events) :
      Begins (.ask request resume) (⟨request, answer⟩ :: events)

theorem runs_done_iff {value result : α} {events : List (Exchange signature)} :
    Runs (.done value) events result ↔ events = [] ∧ result = value := by
  constructor
  · intro run
    cases run
    exact ⟨rfl, rfl⟩
  · rintro ⟨rfl, rfl⟩
    exact .done _

theorem runs_ask_iff {request : signature.Request}
    {resume : signature.Answer request → Dialogue signature α}
    {events : List (Exchange signature)} {value : α} :
    Runs (.ask request resume) events value ↔
      ∃ answer rest, events = ⟨request, answer⟩ :: rest ∧ Runs (resume answer) rest value := by
  constructor
  · intro run
    cases run with
    | ask rest => exact ⟨_, _, rfl, rest⟩
  · rintro ⟨answer, rest, rfl, run⟩
    exact .ask run

/-- A run of two programs one after the other is a run of the first and one of the second. -/
theorem runs_bind_iff {program : Dialogue signature α} {next : α → Dialogue signature β}
    {events : List (Exchange signature)} {result : β} :
    Runs (program >>= next) events result ↔
      ∃ first second value,
        events = first ++ second ∧ Runs program first value ∧ Runs (next value) second result := by
  induction program generalizing events with
  | done value =>
      constructor
      · intro run
        exact ⟨[], events, value, rfl, .done value, run⟩
      · rintro ⟨first, second, middle, rfl, run, rest⟩
        obtain ⟨rfl, rfl⟩ := runs_done_iff.mp run
        exact rest
  | ask request resume induction =>
      rw [ask_bind, runs_ask_iff]
      constructor
      · rintro ⟨answer, rest, rfl, run⟩
        obtain ⟨first, second, value, rfl, begun, ended⟩ := (induction answer).mp run
        exact ⟨_, second, value, rfl, .ask begun, ended⟩
      · rintro ⟨first, second, value, rfl, run, ended⟩
        obtain ⟨answer, rest, rfl, begun⟩ := runs_ask_iff.mp run
        exact ⟨answer, _, rfl, (induction answer).mpr ⟨rest, second, value, rfl, begun, ended⟩⟩
  | unfinished =>
      constructor
      · intro run
        cases run
      · rintro ⟨first, second, value, rfl, run, ended⟩
        cases run

/-! ## Rules -/

/--
After the exchanges of the past the program asks only what the rule allows after what has happened by
then, and what has happened when it is done is related to its value.
-/
def Obeys (rule : List (Exchange signature) → signature.Request → Prop)
    (post : List (Exchange signature) → α → Prop) :
    List (Exchange signature) → Dialogue signature α → Prop
  | past, .done value => post past value
  | past, .ask request resume =>
    rule past request ∧ ∀ answer, Obeys rule post (past ++ [⟨request, answer⟩]) (resume answer)
  | _, .unfinished => True

variable {rule : List (Exchange signature) → signature.Request → Prop}
  {past : List (Exchange signature)}

@[simp] theorem obeys_done {post : List (Exchange signature) → α → Prop} {value : α} :
    Obeys rule post past (.done value) ↔ post past value := Iff.rfl

@[simp] theorem obeys_ask {post : List (Exchange signature) → α → Prop}
    {request : signature.Request} {resume : signature.Answer request → Dialogue signature α} :
    Obeys rule post past (.ask request resume) ↔
      rule past request ∧ ∀ answer, Obeys rule post (past ++ [⟨request, answer⟩]) (resume answer) :=
  Iff.rfl

/-- A program that goes on with another obeys a rule if it does until the other one starts, and the
other one does from there on. -/
@[simp] theorem obeys_bind {post : List (Exchange signature) → β → Prop}
    (program : Dialogue signature α) (next : α → Dialogue signature β) :
    Obeys rule post past (program >>= next) ↔
      Obeys rule (fun past value => Obeys rule post past (next value)) past program := by
  induction program generalizing past with
  | done value => rfl
  | ask request resume induction => simp only [ask_bind, obeys_ask, induction]
  | unfinished => rfl

theorem Obeys.mono {post weaker : List (Exchange signature) → α → Prop}
    {program : Dialogue signature α} (obeys : Obeys rule post past program)
    (weaken : ∀ past value, post past value → weaker past value) :
    Obeys rule weaker past program := by
  induction program generalizing past with
  | done value => exact weaken past value obeys
  | ask request resume induction =>
      exact ⟨obeys.1, fun answer => induction answer (obeys.2 answer)⟩
  | unfinished => trivial

/-- What a program ensures holds besides what is related to what has happened. -/
theorem Obeys.and_ensures {post : List (Exchange signature) → α → Prop} {property : α → Prop}
    {program : Dialogue signature α} (obeys : Obeys rule post past program)
    (ensures : program.Ensures property) :
    Obeys rule (fun past value => post past value ∧ property value) past program := by
  induction program generalizing past with
  | done value => exact ⟨obeys, ensures⟩
  | ask request resume induction =>
      exact ⟨obeys.1, fun answer => induction answer (obeys.2 answer) (ensures answer)⟩
  | unfinished => trivial

/-- What a run comes to is related to what happened before it and in it. -/
theorem Obeys.of_runs {post : List (Exchange signature) → α → Prop}
    {program : Dialogue signature α} {events : List (Exchange signature)} {value : α}
    (obeys : Obeys rule post past program) (run : Runs program events value) :
    post (past ++ events) value := by
  induction run generalizing past with
  | done value => simpa using obeys
  | ask rest induction => simpa using induction (obeys.2 _)

/-- If anything may be asked, what every run comes to is all that matters. -/
theorem obeys_of_runs {post : List (Exchange signature) → α → Prop} {program : Dialogue signature α}
    (all : ∀ events value, Runs program events value → post (past ++ events) value) :
    Obeys (fun _ _ => True) post past program := by
  induction program generalizing past with
  | done value => simpa using all [] value (.done value)
  | ask request resume induction =>
      refine ⟨trivial, fun answer => induction answer fun events value rest => ?_⟩
      simpa using all (⟨request, answer⟩ :: events) value (.ask rest)
  | unfinished => trivial

/-- Whatever is asked is allowed after what happened before, even if the program never ends. -/
theorem Obeys.of_begins {post : List (Exchange signature) → α → Prop}
    {program : Dialogue signature α} {earlier later : List (Exchange signature)}
    {request : signature.Request} {answer : signature.Answer request}
    (obeys : Obeys rule post past program)
    (begins : Begins program (earlier ++ ⟨request, answer⟩ :: later)) :
    rule (past ++ earlier) request := by
  induction earlier generalizing past program with
  | nil =>
      cases begins with
      | ask rest => simpa using obeys.1
  | cons event earlier induction =>
      cases begins with
      | ask rest => simpa using induction (obeys.2 _) rest

/-- A program that comes to its end began with all of its exchanges. -/
theorem Runs.begins {program : Dialogue signature α} {events : List (Exchange signature)}
    {value : α} (run : Runs program events value) : Begins program events := by
  induction run with
  | done value => exact .nil _
  | ask rest induction => exact .ask induction

/-- Every exchange of a run is about a request that the rule allows at its time. -/
theorem Obeys.of_mem {allowed : signature.Request → Prop}
    {post : List (Exchange signature) → α → Prop} {program : Dialogue signature α}
    {events : List (Exchange signature)} {value : α}
    (obeys : Obeys (fun _ => allowed) post past program) (run : Runs program events value) :
    ∀ event ∈ events, allowed event.1 := by
  intro event member
  obtain ⟨earlier, later, rfl⟩ := List.append_of_mem member
  exact obeys.of_begins run.begins

end RoguePilot.Dialogue
