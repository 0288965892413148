import RoguePilot.Proofs.Game.Score

/-!
# The range of the numbers that are read

Whatever the panel shows, a number that is read off it has thirty-two bits and is not negative: digits that
stand for a greater one are not read, and the bar of noise is no longer than the panel. So this holds of
every snapshot that is taken over one of which it holds.
-/

namespace RoguePilot

/-- The numbers of a snapshot. -/
def Snapshot.numbers (snapshot : Snapshot) : List Int :=
  [snapshot.health, snapshot.maxHealth, snapshot.magic, snapshot.maxMagic, snapshot.armourClass,
    snapshot.evasion, snapshot.shielding, snapshot.strength, snapshot.intelligence, snapshot.dexterity,
    snapshot.experienceLevel, snapshot.percentToNextLevel, snapshot.noiseLevel]

/-- No number of the snapshot is negative or too great. -/
def Snapshot.InRange (snapshot : Snapshot) : Prop :=
  ∀ number ∈ snapshot.numbers, 0 ≤ number ∧ number ≤ StatusPanel.greatestNumber

instance (snapshot : Snapshot) : Decidable snapshot.InRange :=
  inferInstanceAs (Decidable (∀ number ∈ snapshot.numbers, _))

namespace StatusPanel

/-- The number is neither negative nor too great. -/
abbrev Admissible (number : Int) : Prop :=
  0 ≤ number ∧ number ≤ greatestNumber

variable {text label : List Char} {reading : Reading} {previous : Snapshot} {screen : Screen}

/-! ## Numbers -/

theorem admissible_number? {digits : List Char} : ∀ number ∈ number? digits, Admissible number := by
  intro number read
  obtain ⟨value, found, rfl⟩ := Option.map_eq_some_iff.mp read
  have small : value ≤ greatestNumber := by simpa using (Option.filter_eq_some_iff.mp found).2
  exact ⟨Int.natCast_nonneg value, Int.ofNat_le.mpr small⟩

theorem admissible_one? {label : String} : ∀ number ∈ one? label text, Admissible number := by
  intro number read
  obtain ⟨digits, -, found⟩ := Option.bind_eq_some_iff.mp read
  exact admissible_number? number found

theorem admissible_two? {digits : Option (List Char × List Char)} :
    ∀ pair ∈ two? digits, Admissible pair.1 ∧ Admissible pair.2 := by
  intro pair read
  obtain ⟨shown, -, rest⟩ := Option.bind_eq_some_iff.mp read
  obtain ⟨first, found, rest⟩ := Option.bind_eq_some_iff.mp rest
  obtain ⟨second, found_second, rfl⟩ := Option.map_eq_some_iff.mp rest
  exact ⟨admissible_number? first found, admissible_number? second found_second⟩

theorem admissible_getD {read : Option Int} {carried : Int} (here : ∀ number ∈ read, Admissible number)
    (before : Admissible carried) : Admissible (read.getD carried) := by
  cases read with
  | none => exact before
  | some number => exact here number rfl

theorem admissible_getD_pair {read : Option (Int × Int)} {first second : Int}
    (here : ∀ pair ∈ read, Admissible pair.1 ∧ Admissible pair.2) (first_before : Admissible first)
    (second_before : Admissible second) :
    Admissible (read.getD (first, second)).1 ∧ Admissible (read.getD (first, second)).2 := by
  cases read with
  | none => exact ⟨first_before, second_before⟩
  | some pair => exact here pair rfl

/-! ## The bar of noise -/

theorem length_linesText_le {lines : List (List Char)} {width : Nat}
    (narrow : ∀ line ∈ lines, line.length ≤ width) :
    (Screen.linesText lines).length ≤ lines.length * (width + 1) := by
  induction lines with
  | nil => exact Nat.zero_le _
  | cons line lines induction =>
      obtain ⟨here, later⟩ := List.forall_mem_cons.mp narrow
      have rest := induction later
      simp only [Screen.linesText, List.flatMap_cons, List.length_append, List.length_cons, List.length_nil,
        Nat.add_mul] at rest ⊢
      omega

/-- The panel has nine lines at most, of forty-three characters at most. -/
theorem length_text_le (screen : Screen) : (StatusPanel.text screen).length ≤ 9 * (43 + 1) := by
  have narrow : ∀ line ∈ ((screen.lines.take (min far.row (screen.size.rows - 1) + 1)).drop near.row).map
      fun row => (row.glyphs.take (min far.column (screen.size.columns - 1) + 1)).drop near.column,
      line.length ≤ 43 := by
    intro line member
    obtain ⟨row, -, rfl⟩ := List.mem_map.mp member
    simp only [List.length_drop, List.length_take, near, far]
    omega
  refine Nat.le_trans (length_linesText_le narrow) (Nat.mul_le_mul_right _ ?_)
  simp only [List.length_map, List.length_drop, List.length_take, near, far]
  omega

theorem noiseLevel_le (text : List Char) : (Reading.of text).noiseLevel ≤ text.length := by
  simp only [Reading.of]
  cases found : Text.readAfter "Noise:".toList barForm text with
  | none => exact Int.natCast_nonneg _
  | some bar =>
      obtain ⟨before, after, text_eq, shown⟩ := Text.exists_of_readAfter found
      obtain rfl := Option.some.inj shown
      have bar_le : ((skipSpaces after).takeWhile (· = '=')).length ≤ (skipSpaces after).length :=
        (List.takeWhile_sublist _).length_le
      have spaces_le : (after.dropWhile (· = ' ')).length ≤ after.length :=
        (List.dropWhile_sublist _).length_le
      rw [text_eq]
      simp only [Option.map_some, Option.getD_some, List.length_append, skipSpaces] at bar_le ⊢
      omega

theorem admissible_noiseLevel (screen : Screen) :
    Admissible (Reading.of (Text.without '\n' (StatusPanel.text screen))).noiseLevel := by
  constructor
  · exact Int.natCast_nonneg _
  · have flat_le : (Text.without '\n' (StatusPanel.text screen)).length ≤ (StatusPanel.text screen).length :=
      List.length_filter_le _ _
    have bar_le := noiseLevel_le (Text.without '\n' (StatusPanel.text screen))
    have text_le := length_text_le screen
    simp only [greatestNumber]
    omega

/-! ## Snapshots -/

/-- Every number that a reading shows is in range. -/
structure Reading.InRange (reading : Reading) : Prop where
  /-- Health and the greatest health. -/
  health : ∀ pair ∈ reading.health, Admissible pair.1 ∧ Admissible pair.2
  /-- Magic and the greatest magic. -/
  magic : ∀ pair ∈ reading.magic, Admissible pair.1 ∧ Admissible pair.2
  /-- The experience level and the way to the next one. -/
  experience : ∀ pair ∈ reading.experience, Admissible pair.1 ∧ Admissible pair.2
  /-- Protection by armour. -/
  armourClass : ∀ number ∈ reading.armourClass, Admissible number
  /-- Skill in dodging. -/
  evasion : ∀ number ∈ reading.evasion, Admissible number
  /-- Protection by a shield. -/
  shielding : ∀ number ∈ reading.shielding, Admissible number
  /-- Strength. -/
  strength : ∀ number ∈ reading.strength, Admissible number
  /-- Intelligence. -/
  intelligence : ∀ number ∈ reading.intelligence, Admissible number
  /-- Dexterity. -/
  dexterity : ∀ number ∈ reading.dexterity, Admissible number
  /-- The length of the noise bar. -/
  noiseLevel : Admissible reading.noiseLevel

theorem Reading.inRange_of (screen : Screen) :
    (Reading.of (Text.without '\n' (StatusPanel.text screen))).InRange where
  health := admissible_two?
  magic := admissible_two?
  experience := admissible_two?
  armourClass := admissible_one?
  evasion := admissible_one?
  shielding := admissible_one?
  strength := admissible_one?
  intelligence := admissible_one?
  dexterity := admissible_one?
  noiseLevel := admissible_noiseLevel screen

theorem Reading.InRange.over (here : reading.InRange) (before : previous.InRange) :
    (reading.over previous).InRange := by
  simp only [Snapshot.InRange, Snapshot.numbers, List.forall_mem_cons] at before ⊢
  obtain ⟨health, maxHealth, magic, maxMagic, armourClass, evasion, shielding, strength, intelligence,
    dexterity, experienceLevel, percentToNextLevel, -, rest⟩ := before
  have health_here := admissible_getD_pair here.health health maxHealth
  have magic_here := admissible_getD_pair here.magic magic maxMagic
  have experience_here := admissible_getD_pair here.experience experienceLevel percentToNextLevel
  exact ⟨health_here.1, health_here.2, magic_here.1, magic_here.2,
    admissible_getD here.armourClass armourClass, admissible_getD here.evasion evasion,
    admissible_getD here.shielding shielding, admissible_getD here.strength strength,
    admissible_getD here.intelligence intelligence, admissible_getD here.dexterity dexterity,
    experience_here.1, experience_here.2, here.noiseLevel, rest⟩

/-- Whatever is on the screen, a snapshot taken over one with numbers in range has its numbers in range. -/
theorem inRange_snapshot (screen : Screen) (before : previous.InRange) : (snapshot screen previous).InRange := by
  unfold snapshot
  split
  · exact (Reading.inRange_of screen).over before
  · exact before

end StatusPanel

namespace Score

variable {previous current : Snapshot}

/-- Scoring a move leaves the numbers alone. -/
theorem inRange_transition (here : current.InRange) (output : List Char) :
    (transition previous current output).1.InRange := by
  obtain ⟨won, died, escapedWithoutOrb, hasOrb, scored_eq, -⟩ :=
    transition_eq_withFindings previous current output
  rw [scored_eq]
  exact here

end Score

theorem Snapshot.inRange_empty : ({} : Snapshot).InRange := by
  decide

end RoguePilot
