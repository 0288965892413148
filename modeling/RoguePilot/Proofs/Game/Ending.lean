import Mathlib.Data.List.Induction
import RoguePilot.Proofs.Game.Score

/-!
# How games end

What a snapshot says about a game is found out frame by frame. A frame of a game that has started can
show that it has ended, and in which way. Whatever was found out once is never taken back, and none of it
contradicts the rest, with one exception: frames that are read after the game has ended can show another
ending, which is then recorded as well.
-/

namespace RoguePilot

/-- A frame as it is evaluated. -/
structure Glimpse where
  /-- The screen at its end. -/
  screen : Screen
  /-- Its output, with control sequences. -/
  output : List Char

/-- A way in which a game ends. -/
inductive Ending where
  /-- The character escapes with the orb. -/
  | won
  /-- The character dies. -/
  | died
  /-- The character leaves the dungeon without the orb. -/
  | escapedWithoutOrb
deriving DecidableEq, Repr

namespace Snapshot

/-- The snapshot says that the game has ended in this way. -/
def tells (snapshot : Snapshot) : Ending → Bool
  | .won => snapshot.won
  | .died => snapshot.died
  | .escapedWithoutOrb => snapshot.escapedWithoutOrb

variable {snapshot before between after : Snapshot} {glimpse : Glimpse} {ending : Ending}

theorem isFinished_iff_tells : snapshot.isFinished = true ↔ ∃ ending, snapshot.tells ending = true := by
  simp only [isFinished, Bool.or_eq_true]
  constructor
  · rintro ((won | died) | escaped)
    · exact ⟨.won, won⟩
    · exact ⟨.died, died⟩
    · exact ⟨.escapedWithoutOrb, escaped⟩
  · rintro ⟨ending, told⟩
    cases ending with
    | won => exact .inl (.inl told)
    | died => exact .inl (.inr told)
    | escapedWithoutOrb => exact .inr told

/-- The snapshot after one more frame. -/
def seeing (snapshot : Snapshot) (glimpse : Glimpse) : Snapshot :=
  (Score.transition snapshot (StatusPanel.snapshot glimpse.screen snapshot) glimpse.output).1

/-- The ending that output shows. Whether an escape wins the game depends on the orb. -/
def endingOf (hasOrb : Bool) (output : List Char) : Option Ending :=
  if Score.shows output Score.escapedMarker then
    some (if hasOrb then .won else .escapedWithoutOrb)
  else if Score.shows output Score.deathMarker then some .died
  else none

/-- The ending that a frame shows of a game, which must have started. -/
def endingIn (snapshot : Snapshot) (glimpse : Glimpse) : Option Ending :=
  if snapshot.started then endingOf snapshot.hasOrb glimpse.output else none

/-! ## One frame -/

theorem seeing_of_not_started (waiting : snapshot.started = false) :
    snapshot.seeing glimpse = StatusPanel.snapshot glimpse.screen snapshot := by
  rw [seeing, Score.transition, waiting, Bool.not_false, if_pos rfl]

theorem seeing_of_started (started : snapshot.started = true) :
    let current := StatusPanel.snapshot glimpse.screen snapshot
    let ended := (Score.ending current glimpse.output).1
    snapshot.seeing glimpse =
      if ended.isFinished then ended else (Score.pickUp current glimpse.output).1 := by
  intro current ended
  rw [seeing, Score.transition, started, Bool.not_true, if_neg Bool.false_ne_true]
  by_cases finished : ended.isFinished = true
  · dsimp only
    rw [if_pos finished, if_pos finished]
  · have goesOn := Score.ending_of_goesOn (Bool.eq_false_iff.mpr finished)
    dsimp only
    rw [if_neg finished, if_neg finished, goesOn]

theorem tells_panel (screen : Screen) :
    (StatusPanel.snapshot screen snapshot).tells ending = snapshot.tells ending := by
  unfold StatusPanel.snapshot
  split
  · cases ending <;> rfl
  · cases ending <;> rfl

theorem tells_pickUp (output : List Char) :
    (Score.pickUp snapshot output).1.tells ending = snapshot.tells ending := by
  obtain ⟨hasOrb, collected_eq, -⟩ := Score.pickUp_eq_withFindings snapshot output
  rw [collected_eq]
  cases ending <;> rfl

theorem tells_ending (snapshot : Snapshot) (output : List Char) (ending : Ending) :
    (Score.ending snapshot output).1.tells ending = true ↔
      snapshot.tells ending = true ∨ endingOf snapshot.hasOrb output = some ending := by
  unfold Score.ending endingOf
  split
  · split <;> cases ending <;> simp [tells]
  · split <;> cases ending <;> simp [tells]

/-- A frame adds the ending it shows to those that were recorded before. -/
theorem tells_seeing :
    (snapshot.seeing glimpse).tells ending = true ↔
      snapshot.tells ending = true ∨ snapshot.endingIn glimpse = some ending := by
  cases started : snapshot.started with
  | false =>
      rw [seeing_of_not_started started, tells_panel, endingIn, started]
      simp
  | true =>
      have shown_iff :=
        tells_ending (StatusPanel.snapshot glimpse.screen snapshot) glimpse.output ending
      rw [tells_panel, StatusPanel.hasOrb_snapshot] at shown_iff
      rw [seeing_of_started started, endingIn, started, if_pos rfl, ← shown_iff]
      split
      · rfl
      · next goesOn =>
        rw [Score.ending_of_goesOn (Bool.eq_false_iff.mpr goesOn), tells_pickUp]

theorem started_seeing (started : snapshot.started = true) :
    (snapshot.seeing glimpse).started = true := by
  obtain ⟨won, died, escapedWithoutOrb, hasOrb, scored_eq, -⟩ := Score.transition_eq_withFindings
    snapshot (StatusPanel.snapshot glimpse.screen snapshot) glimpse.output
  rw [seeing, scored_eq]
  exact StatusPanel.started_snapshot started

theorem hasOrb_seeing_of_finished (finished : (snapshot.seeing glimpse).isFinished = true) :
    (snapshot.seeing glimpse).hasOrb = snapshot.hasOrb := by
  have orb_eq := StatusPanel.hasOrb_snapshot glimpse.screen snapshot
  cases started : snapshot.started with
  | false =>
      rw [seeing_of_not_started started]
      exact orb_eq
  | true =>
      rw [seeing_of_started started] at finished ⊢
      split at finished
      · next ended =>
        obtain ⟨won, died, escapedWithoutOrb, ended_eq⟩ := Score.ending_eq_withFindings
          (StatusPanel.snapshot glimpse.screen snapshot) glimpse.output
        rw [if_pos ended, ended_eq]
        exact orb_eq
      · next goesOn =>
        -- The orb is picked up in a game that goes on, and does not end it.
        have ended : (StatusPanel.snapshot glimpse.screen snapshot).isFinished = true := by
          obtain ⟨ending, told⟩ := isFinished_iff_tells.mp finished
          rw [tells_pickUp] at told
          exact isFinished_iff_tells.mpr ⟨ending, told⟩
        rw [Score.ending_of_goesOn (Bool.eq_false_iff.mpr goesOn)] at goesOn
        exact absurd ended goesOn

/-! ## What is never taken back -/

/-- Whatever was found out before is still known after. -/
structure Grows (before after : Snapshot) : Prop where
  /-- A game that has started stays started. -/
  started : before.started = true → after.started = true
  /-- The orb is never lost. -/
  hasOrb : before.hasOrb = true → after.hasOrb = true
  /-- An ending that was recorded stays recorded. -/
  tells : ∀ ending, before.tells ending = true → after.tells ending = true

theorem Grows.refl (snapshot : Snapshot) : snapshot.Grows snapshot := ⟨id, id, fun _ => id⟩

theorem Grows.trans (first : before.Grows between) (second : between.Grows after) :
    before.Grows after where
  started := second.started ∘ first.started
  hasOrb := second.hasOrb ∘ first.hasOrb
  tells ending := second.tells ending ∘ first.tells ending

theorem grows_seeing (snapshot : Snapshot) (glimpse : Glimpse) :
    snapshot.Grows (snapshot.seeing glimpse) where
  started := started_seeing
  hasOrb carried := by
    obtain ⟨won, died, escapedWithoutOrb, hasOrb, scored_eq, kept⟩ :=
      Score.transition_eq_withFindings snapshot (StatusPanel.snapshot glimpse.screen snapshot)
        glimpse.output
    rw [seeing, scored_eq]
    exact kept ((StatusPanel.hasOrb_snapshot glimpse.screen snapshot).trans carried)
  tells _ told := tells_seeing.mpr (.inl told)

/-! ## What does not contradict -/

/-- What the snapshot says about the game fits together. -/
structure Consistent (snapshot : Snapshot) : Prop where
  /-- The game is won with the orb only. -/
  hasOrb_of_won : snapshot.won = true → snapshot.hasOrb = true
  /-- An escape without the orb is one. -/
  not_hasOrb_of_escaped : snapshot.escapedWithoutOrb = true → snapshot.hasOrb = false
  /-- Only a game that has started ends. -/
  started_of_tells : ∀ ending, snapshot.tells ending = true → snapshot.started = true
  /-- Only in a game that has started the orb is picked up. -/
  started_of_hasOrb : snapshot.hasOrb = true → snapshot.started = true

theorem consistent_initial : Consistent {} :=
  ⟨nofun, nofun, fun ending => by cases ending <;> nofun, nofun⟩

theorem hasOrb_of_endingOf {hasOrb : Bool} {output : List Char} :
    (endingOf hasOrb output = some .won → hasOrb = true) ∧
      (endingOf hasOrb output = some .escapedWithoutOrb → hasOrb = false) := by
  unfold endingOf
  split
  · cases hasOrb <;> simp
  · split <;> simp

theorem Consistent.seeing (consistent : snapshot.Consistent) (glimpse : Glimpse) :
    (snapshot.seeing glimpse).Consistent := by
  have orb_eq {ending : Ending} (told : (snapshot.seeing glimpse).tells ending = true) :=
    hasOrb_seeing_of_finished (isFinished_iff_tells.mpr ⟨ending, told⟩)
  cases started : snapshot.started with
  | false =>
      -- Nothing has been found out so far, and this frame adds nothing but that the game has started.
      have no_orb : (snapshot.seeing glimpse).hasOrb = false := by
        rw [seeing_of_not_started started, StatusPanel.hasOrb_snapshot]
        exact Bool.eq_false_iff.mpr fun carried => by
          simp [consistent.started_of_hasOrb carried] at started
      have untold (ending : Ending) : (snapshot.seeing glimpse).tells ending = false := by
        rw [seeing_of_not_started started, tells_panel]
        exact Bool.eq_false_iff.mpr fun told => by
          simp [consistent.started_of_tells ending told] at started
      refine ⟨fun won => ?_, fun _ => no_orb, fun ending told => ?_, fun carried => ?_⟩
      · exact absurd won (Bool.eq_false_iff.mp (untold .won))
      · exact absurd told (Bool.eq_false_iff.mp (untold ending))
      · exact absurd carried (Bool.eq_false_iff.mp no_orb)
  | true =>
      have still : (snapshot.seeing glimpse).started = true := started_seeing started
      have shown_eq : snapshot.endingIn glimpse = endingOf snapshot.hasOrb glimpse.output :=
        if_pos started
      have found {ending : Ending} (told : (snapshot.seeing glimpse).tells ending = true) :
          snapshot.tells ending = true ∨ endingOf snapshot.hasOrb glimpse.output = some ending := by
        rw [← shown_eq]
        exact tells_seeing.mp told
      refine ⟨fun won => ?_, fun escaped => ?_, fun _ _ => still, fun _ => still⟩
      · have told : (snapshot.seeing glimpse).tells .won = true := won
        rw [orb_eq told]
        exact (found told).elim consistent.hasOrb_of_won hasOrb_of_endingOf.1
      · have told : (snapshot.seeing glimpse).tells .escapedWithoutOrb = true := escaped
        rw [orb_eq told]
        exact (found told).elim consistent.not_hasOrb_of_escaped hasOrb_of_endingOf.2

/-! ## Any frames -/

/-- What is known about a game after its frames. -/
def ofGlimpses (glimpses : List Glimpse) : Snapshot :=
  glimpses.foldl seeing {}

variable {glimpses first second : List Glimpse}

theorem ofGlimpses_concat (glimpses : List Glimpse) (glimpse : Glimpse) :
    ofGlimpses (glimpses ++ [glimpse]) = (ofGlimpses glimpses).seeing glimpse := by
  simp [ofGlimpses]

theorem consistent_ofGlimpses (glimpses : List Glimpse) : (ofGlimpses glimpses).Consistent := by
  induction glimpses using List.reverseRecOn with
  | nil => exact consistent_initial
  | append_singleton earlier glimpse induction =>
      rw [ofGlimpses_concat]
      exact induction.seeing glimpse

theorem grows_ofGlimpses (isPrefix : first <+: second) :
    (ofGlimpses first).Grows (ofGlimpses second) := by
  obtain ⟨later, rfl⟩ := isPrefix
  induction later using List.reverseRecOn with
  | nil =>
      rw [List.append_nil]
      exact .refl _
  | append_singleton later glimpse induction =>
      rw [← List.append_assoc, ofGlimpses_concat]
      exact induction.trans (grows_seeing _ glimpse)

end Snapshot

open Snapshot

/-! ## Endings of a game -/

/-- One of the frames shows the ending, by what is known before it. -/
def ShowsEnding (glimpses : List Glimpse) (ending : Ending) : Prop :=
  ∃ earlier glimpse later, glimpses = earlier ++ glimpse :: later ∧
    (ofGlimpses earlier).endingIn glimpse = some ending

variable {glimpses first second : List Glimpse} {ending : Ending}

theorem not_showsEnding_nil : ¬ ShowsEnding [] ending := by
  rintro ⟨earlier, glimpse, later, split, -⟩
  simp at split

theorem showsEnding_concat {glimpse : Glimpse} :
    ShowsEnding (glimpses ++ [glimpse]) ending ↔
      ShowsEnding glimpses ending ∨ (ofGlimpses glimpses).endingIn glimpse = some ending := by
  constructor
  · rintro ⟨earlier, shown, later, split, shows⟩
    rcases List.eq_nil_or_concat later with rfl | ⟨later, last, rfl⟩
    · obtain ⟨rfl, last_eq⟩ := List.append_inj' split rfl
      obtain rfl : glimpse = shown := List.singleton_inj.mp last_eq
      exact .inr shows
    · rw [List.concat_eq_append, ← List.cons_append, ← List.append_assoc] at split
      obtain ⟨rfl, -⟩ := List.append_inj' split rfl
      exact .inl ⟨earlier, shown, later, rfl, shows⟩
  · rintro (⟨earlier, shown, later, rfl, shows⟩ | shows)
    · exact ⟨earlier, shown, later ++ [glimpse], by simp, shows⟩
    · exact ⟨glimpses, glimpse, [], rfl, shows⟩

theorem ShowsEnding.mono (shows : ShowsEnding first ending) (isPrefix : first <+: second) :
    ShowsEnding second ending := by
  obtain ⟨earlier, glimpse, later, rfl, shown⟩ := shows
  obtain ⟨more, rfl⟩ := isPrefix
  exact ⟨earlier, glimpse, later ++ more, by simp, shown⟩

/-- The endings that are recorded are those that were shown. -/
theorem tells_ofGlimpses : (ofGlimpses glimpses).tells ending = true ↔ ShowsEnding glimpses ending := by
  induction glimpses using List.reverseRecOn with
  | nil =>
      refine ⟨fun told => ?_, fun shows => absurd shows not_showsEnding_nil⟩
      cases ending <;> contradiction
  | append_singleton earlier glimpse induction =>
      rw [ofGlimpses_concat, tells_seeing, induction, showsEnding_concat]

/-- A game ends in one way at most, and then nothing about it changes any more. -/
structure EndsOnce (glimpses : List Glimpse) : Prop where
  /-- At no time two endings are recorded. -/
  single : ∀ first, first <+: glimpses → ∀ one other,
    (ofGlimpses first).tells one = true → (ofGlimpses first).tells other = true → one = other
  /-- Once an ending is recorded, the same ones are. -/
  lasting : ∀ first second, first <+: second → second <+: glimpses →
    (ofGlimpses first).isFinished = true →
      ∀ ending, (ofGlimpses second).tells ending = (ofGlimpses first).tells ending

theorem endsOnce_iff :
    EndsOnce glimpses ↔
      ∀ one other, ShowsEnding glimpses one → ShowsEnding glimpses other → one = other := by
  constructor
  · intro once one other shows_one shows_other
    exact once.single glimpses List.prefix_rfl one other (tells_ofGlimpses.mpr shows_one)
      (tells_ofGlimpses.mpr shows_other)
  · intro agree
    constructor
    · intro first isPrefix one other one_told other_told
      exact agree one other ((tells_ofGlimpses.mp one_told).mono isPrefix)
        ((tells_ofGlimpses.mp other_told).mono isPrefix)
    · intro first second earlier isPrefix finished ending
      have grows := grows_ofGlimpses earlier
      obtain ⟨settled, told⟩ := isFinished_iff_tells.mp finished
      rw [Bool.eq_iff_iff]
      refine ⟨fun told_later => ?_, grows.tells ending⟩
      have same := agree settled ending
        (((tells_ofGlimpses.mp told).mono earlier).mono isPrefix)
        ((tells_ofGlimpses.mp told_later).mono isPrefix)
      rw [← same]
      exact told

/-- Until a game has ended, one more frame does not make it end in two ways. -/
theorem endsOnce_of_goesOn (goesOn : (ofGlimpses glimpses).isFinished = false)
    (glimpse? : Option Glimpse) : EndsOnce (glimpses ++ glimpse?.toList) := by
  have unshown (ending : Ending) : ¬ ShowsEnding glimpses ending := by
    intro shows
    rw [isFinished_iff_tells.mpr ⟨ending, tells_ofGlimpses.mpr shows⟩] at goesOn
    contradiction
  rw [endsOnce_iff]
  intro one other shows_one shows_other
  cases glimpse? with
  | none =>
      rw [Option.toList_none, List.append_nil] at shows_one
      exact absurd shows_one (unshown one)
  | some glimpse =>
      have shown_one := (showsEnding_concat.mp shows_one).resolve_left (unshown one)
      have shown_other := (showsEnding_concat.mp shows_other).resolve_left (unshown other)
      rw [shown_one] at shown_other
      exact Option.some.inj shown_other

end RoguePilot
