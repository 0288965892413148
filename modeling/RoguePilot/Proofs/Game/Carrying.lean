import Mathlib.Data.List.Induction
import RoguePilot.Proofs.Game.StatusPanel

/-!
# Values carried over from frame to frame

The panel need not show every field on every frame. What it does not show is carried over, each field on
its own, so that after any frames a field has the value that was shown last. The noise bar is shown
whenever the panel is, if only with no length at all.
-/

namespace RoguePilot.StatusPanel

/-! ## One frame -/

/-- What a text of the panel shows, if it is one. -/
def reading? (text : List Char) : Option Reading :=
  if Text.inOrder 1 landmarks text then some (.of (Text.without '\n' text)) else none

/-- The snapshot after a frame that shows the panel or does not. -/
def carryOver (previous : Snapshot) : Option Reading → Snapshot
  | some reading => reading.over previous
  | none => { previous with onMainScreen := false }

theorem snapshot_eq_carryOver (screen : Screen) (previous : Snapshot) :
    snapshot screen previous = carryOver previous (reading? (text screen)) := by
  rw [snapshot, isShown, reading?]
  split <;> rfl

/-- No label of the bar has a bar behind it. -/
def IsQuiet (text : List Char) : Prop :=
  ∀ before after, text = before ++ "Noise:".toList ++ after → (skipSpaces after).head? ≠ some '='

theorem noiseLevel_of_isQuiet {text : List Char} (quiet : IsQuiet text) :
    (Reading.of text).noiseLevel = 0 := by
  have length_eq : (Reading.of text).noiseLevel =
      ((Text.readAfter "Noise:".toList barForm text).map List.length).getD 0 := rfl
  rw [length_eq]
  cases found : Text.readAfter "Noise:".toList barForm text with
  | none => rfl
  | some bar =>
      obtain ⟨before, after, text_eq, bar_eq⟩ := Text.exists_of_readAfter found
      have not_bar := quiet before after text_eq
      obtain rfl := Option.some.inj bar_eq
      cases behind : skipSpaces after with
      | nil => rfl
      | cons character rest =>
          rw [behind, List.head?_cons, ne_eq, Option.some.injEq] at not_bar
          simp [not_bar]

/-! ## Any frames -/

/-- The snapshot after frames. -/
def snapshotAll (previous : Snapshot) (screens : List Screen) : Snapshot :=
  screens.foldl (fun known screen => snapshot screen known) previous

variable {α : Type} {initial : Snapshot} {screens : List Screen}

theorem snapshotAll_concat (screens : List Screen) (screen : Screen) :
    snapshotAll initial (screens ++ [screen]) = snapshot screen (snapshotAll initial screens) := by
  simp [snapshotAll]

/-- The value is the one that was shown last, or the initial one if none was shown. -/
def IsLastShown (shown? : Reading → Option α) (initial : α) (screens : List Screen) (value : α) :
    Prop :=
  (∃ earlier screen later, screens = earlier ++ screen :: later ∧
      (reading? (text screen)).bind shown? = some value ∧
      ∀ other ∈ later, (reading? (text other)).bind shown? = none) ∨
    value = initial ∧ ∀ screen ∈ screens, (reading? (text screen)).bind shown? = none

theorem IsLastShown.concat {shown? : Reading → Option α} {first value : α}
    (last : IsLastShown shown? first screens value) (screen : Screen) :
    IsLastShown shown? first (screens ++ [screen])
      (((reading? (text screen)).bind shown?).getD value) := by
  cases shown : (reading? (text screen)).bind shown? with
  | some newer => exact .inl ⟨screens, screen, [], rfl, shown, List.forall_mem_nil _⟩
  | none =>
      have silent : ∀ other ∈ [screen], (reading? (text other)).bind shown? = none :=
        List.forall_mem_singleton.mpr shown
      rcases last with ⟨earlier, source, later, rfl, shows, quiet⟩ | ⟨same, quiet⟩
      · refine .inl ⟨earlier, source, later ++ [screen], ?_, shows, ?_⟩
        · rw [List.append_assoc, List.cons_append]
        · exact List.forall_mem_append.mpr ⟨quiet, silent⟩
      · exact .inr ⟨same, List.forall_mem_append.mpr ⟨quiet, silent⟩⟩

/-- A field takes what a frame shows of it, and nothing else changes it. -/
structure TakesShown (field : Snapshot → α) (shown? : Reading → Option α) : Prop where
  /-- A reading decides on the field if it shows it. -/
  carried : ∀ reading previous, field (Reading.over reading previous) =
    (shown? reading).getD (field previous)
  /-- A frame without the panel does not touch it. -/
  hidden : ∀ previous : Snapshot, field { previous with onMainScreen := false } = field previous

theorem TakesShown.snapshot {field : Snapshot → α} {shown? : Reading → Option α}
    (takes : TakesShown field shown?) (screen : Screen) (previous : Snapshot) :
    field (snapshot screen previous) =
      ((reading? (text screen)).bind shown?).getD (field previous) := by
  rw [snapshot_eq_carryOver]
  cases reading? (text screen) with
  | none => exact takes.hidden previous
  | some reading => exact takes.carried reading previous

theorem TakesShown.isLastShown {field : Snapshot → α} {shown? : Reading → Option α}
    (takes : TakesShown field shown?) (screens : List Screen) :
    IsLastShown shown? (field initial) screens (field (snapshotAll initial screens)) := by
  induction screens using List.reverseRecOn with
  | nil => exact .inr ⟨rfl, List.forall_mem_nil _⟩
  | append_singleton screens screen induction =>
      rw [snapshotAll_concat, takes.snapshot]
      exact induction.concat screen

/-- What the score found out, which no frame changes by itself. -/
def findings (snapshot : Snapshot) : Bool × Bool × Bool × Bool :=
  (snapshot.won, snapshot.died, snapshot.escapedWithoutOrb, snapshot.hasOrb)

theorem findings_snapshotAll (screens : List Screen) :
    findings (snapshotAll initial screens) = findings initial := by
  induction screens using List.reverseRecOn with
  | nil => rfl
  | append_singleton screens screen induction =>
      rw [snapshotAll_concat, snapshot_eq_carryOver, ← induction]
      cases reading? (text screen) <;> rfl

theorem onMainScreen_snapshotAll (screens : List Screen) :
    (snapshotAll initial screens).onMainScreen =
      (screens.getLast?.map isShown).getD initial.onMainScreen := by
  induction screens using List.reverseRecOn with
  | nil => rfl
  | append_singleton screens screen _ =>
      rw [snapshotAll_concat, onMainScreen_snapshot, List.getLast?_concat]
      rfl

/-- After one of the frames the panel was shown and the greatest health known was not zero. -/
def ShowsHealth (initial : Snapshot) (screens : List Screen) : Prop :=
  ∃ earlier screen later, screens = earlier ++ screen :: later ∧ isShown screen = true ∧
    (snapshotAll initial (earlier ++ [screen])).maxHealth ≠ 0

theorem showsHealth_concat {screen : Screen} :
    ShowsHealth initial (screens ++ [screen]) ↔
      ShowsHealth initial screens ∨
        isShown screen = true ∧ (snapshotAll initial (screens ++ [screen])).maxHealth ≠ 0 := by
  constructor
  · rintro ⟨earlier, source, later, split, shown, healthy⟩
    rcases List.eq_nil_or_concat later with rfl | ⟨later, last, rfl⟩
    · obtain ⟨rfl, rfl⟩ := List.append_singleton_inj.mp split
      exact .inr ⟨shown, healthy⟩
    · rw [List.concat_eq_append, ← List.cons_append, ← List.append_assoc] at split
      obtain ⟨rfl, rfl⟩ := List.append_singleton_inj.mp split
      exact .inl ⟨earlier, source, later, rfl, shown, healthy⟩
  · rintro (⟨earlier, source, later, rfl, shown, healthy⟩ | ⟨shown, healthy⟩)
    · refine ⟨earlier, source, later ++ [screen], ?_, shown, healthy⟩
      rw [List.append_assoc, List.cons_append]
    · exact ⟨screens, screen, [], rfl, shown, healthy⟩

theorem started_snapshot_iff (screen : Screen) (previous : Snapshot) :
    (snapshot screen previous).started = true ↔
      previous.started = true ∨
        isShown screen = true ∧ (snapshot screen previous).maxHealth ≠ 0 := by
  rw [snapshot]
  split
  · next shown => simp [snapshotOfText, Reading.over, shown]
  · next hidden => simp [hidden]

theorem started_snapshotAll_iff (screens : List Screen) :
    (snapshotAll initial screens).started = true ↔
      initial.started = true ∨ ShowsHealth initial screens := by
  induction screens using List.reverseRecOn with
  | nil =>
      have never : ¬ ShowsHealth initial [] := by
        rintro ⟨earlier, screen, later, split, -⟩
        simp at split
      rw [or_iff_left never]
      rfl
  | append_singleton screens screen induction =>
      rw [showsHealth_concat, ← or_assoc, ← induction, snapshotAll_concat, started_snapshot_iff]

/-- The snapshot is what is known of an initial one after frames. -/
structure Follows (initial : Snapshot) (screens : List Screen) (final : Snapshot) : Prop where
  health : IsLastShown Reading.health (initial.health, initial.maxHealth) screens
    (final.health, final.maxHealth)
  magic : IsLastShown Reading.magic (initial.magic, initial.maxMagic) screens
    (final.magic, final.maxMagic)
  experience : IsLastShown Reading.experience
    (initial.experienceLevel, initial.percentToNextLevel) screens
    (final.experienceLevel, final.percentToNextLevel)
  armourClass : IsLastShown Reading.armourClass initial.armourClass screens final.armourClass
  evasion : IsLastShown Reading.evasion initial.evasion screens final.evasion
  shielding : IsLastShown Reading.shielding initial.shielding screens final.shielding
  strength : IsLastShown Reading.strength initial.strength screens final.strength
  intelligence : IsLastShown Reading.intelligence initial.intelligence screens final.intelligence
  dexterity : IsLastShown Reading.dexterity initial.dexterity screens final.dexterity
  gameTime : IsLastShown Reading.gameTime initial.gameTime screens final.gameTime
  place : IsLastShown Reading.place initial.place screens final.place
  /-- Every panel shows how loud it is. -/
  noiseLevel : IsLastShown (fun reading => some reading.noiseLevel) initial.noiseLevel screens
    final.noiseLevel
  started : final.started = true ↔ initial.started = true ∨ ShowsHealth initial screens
  onMainScreen : final.onMainScreen = (screens.getLast?.map isShown).getD initial.onMainScreen
  findings : findings final = findings initial

/--
What a frame shows is decided by its text alone, and without a bar it shows that all is quiet. After any
frames every field, and every pair of fields as a whole, has the value shown last, or its initial value if
none of the frames showed it.
-/
theorem last_shown_value_wins (initial : Snapshot) (screens : List Screen) :
    (∀ screen previous, snapshot screen previous = carryOver previous (reading? (text screen))) ∧
      (∀ shown, IsQuiet shown → (Reading.of shown).noiseLevel = 0) ∧
      Follows initial screens (snapshotAll initial screens) := by
  refine ⟨snapshot_eq_carryOver, fun _ => noiseLevel_of_isQuiet, ?_⟩
  have last {α : Type} (field : Snapshot → α) {shown? : Reading → Option α}
      (takes : TakesShown field shown?) :
      IsLastShown shown? (field initial) screens (field (snapshotAll initial screens)) :=
    takes.isLastShown screens
  exact
    { health := last (fun known => (known.health, known.maxHealth)) ⟨fun _ _ => rfl, fun _ => rfl⟩
      magic := last (fun known => (known.magic, known.maxMagic)) ⟨fun _ _ => rfl, fun _ => rfl⟩
      experience :=
        last (fun known => (known.experienceLevel, known.percentToNextLevel))
          ⟨fun _ _ => rfl, fun _ => rfl⟩
      armourClass := last Snapshot.armourClass ⟨fun _ _ => rfl, fun _ => rfl⟩
      evasion := last Snapshot.evasion ⟨fun _ _ => rfl, fun _ => rfl⟩
      shielding := last Snapshot.shielding ⟨fun _ _ => rfl, fun _ => rfl⟩
      strength := last Snapshot.strength ⟨fun _ _ => rfl, fun _ => rfl⟩
      intelligence := last Snapshot.intelligence ⟨fun _ _ => rfl, fun _ => rfl⟩
      dexterity := last Snapshot.dexterity ⟨fun _ _ => rfl, fun _ => rfl⟩
      gameTime := last Snapshot.gameTime ⟨fun _ _ => rfl, fun _ => rfl⟩
      place := last Snapshot.place ⟨fun _ _ => rfl, fun _ => rfl⟩
      noiseLevel := last Snapshot.noiseLevel ⟨fun _ _ => rfl, fun _ => rfl⟩
      started := started_snapshotAll_iff screens
      onMainScreen := onMainScreen_snapshotAll screens
      findings := findings_snapshotAll screens }

end RoguePilot.StatusPanel
