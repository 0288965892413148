import RoguePilot.Proofs.Game.PanelValues
import RoguePilot.Proofs.Terminal.Placement
import RoguePilot.Proofs.Text.Labelled
import RoguePilot.Text.Alignment

/-!
# Drawing a panel and reading it

A panel whose lines are sent to their places on a fresh terminal, in whatever order, is shown, and a
snapshot of the screen has the values it was drawn from. The labels tell the values apart because no label
occurs before its own place.
-/

namespace RoguePilot.StatusPanel

open Text

/-! ## What is drawn -/

/-- What a panel shows: two free lines, numbers, a place, a bar of noise and a time. -/
structure Panel where
  name : List Char
  kind : List Char
  health : Nat
  maxHealth : Nat
  magic : Nat
  maxMagic : Nat
  armourClass : Nat
  strength : Nat
  evasion : Nat
  intelligence : Nat
  shielding : Nat
  dexterity : Nat
  level : Nat
  percent : Nat
  place : List Char
  noise : Nat
  whole : List Char
  fraction : List Char

/-- A value behind its label. -/
def labelled (label value : List Char) : List Char :=
  label ++ ' ' :: value

namespace Panel

/-- Two numbers with a slash between them. -/
def slashed (first second : Nat) : List Char :=
  Numeral.decimal first ++ '/' :: Numeral.decimal second

/-- The experience level and the way to the next one, with its own label. -/
def experience (panel : Panel) : List Char :=
  Numeral.decimal panel.level ++ " Next: ".toList ++ (Numeral.decimal panel.percent ++ ['%'])

/-- The bar of noise. -/
def bar (panel : Panel) : List Char :=
  List.replicate panel.noise '='

/-- The time in the game. -/
def time (panel : Panel) : List Char :=
  panel.whole ++ '.' :: panel.fraction

/-- The lines of the panel, from its first to its last. -/
def lines (panel : Panel) : List (List Char) :=
  [ panel.name,
    panel.kind,
    labelled "Health:".toList (slashed panel.health panel.maxHealth),
    labelled "Magic:".toList (slashed panel.magic panel.maxMagic),
    labelled "AC:".toList (Numeral.decimal panel.armourClass) ++ ' ' ::
      labelled "Str:".toList (Numeral.decimal panel.strength),
    labelled "EV:".toList (Numeral.decimal panel.evasion) ++ ' ' ::
      labelled "Int:".toList (Numeral.decimal panel.intelligence),
    labelled "SH:".toList (Numeral.decimal panel.shielding) ++ ' ' ::
      labelled "Dex:".toList (Numeral.decimal panel.dexterity),
    labelled "XL:".toList panel.experience ++ ' ' :: labelled "Place:".toList panel.place,
    labelled "Noise:".toList panel.bar ++ ' ' :: labelled "Time:".toList panel.time ]

/-- The numbers of the panel. -/
def numbers (panel : Panel) : List Nat :=
  [panel.health, panel.maxHealth, panel.magic, panel.maxMagic, panel.armourClass, panel.strength,
    panel.evasion, panel.intelligence, panel.shielding, panel.dexterity, panel.level, panel.percent]

/-- The lines with their places, each beginning at the left edge of the panel. -/
def placards (panel : Panel) : List Terminal.Placard :=
  panel.lines.zipIdx.map fun line => ⟨line.1, ⟨line.2, near.column⟩⟩

/-- The snapshot that shows what the panel shows, and keeps the rest of the previous one. -/
def drawnOver (panel : Panel) (gameTime : Binary64) (previous : Snapshot) : Snapshot :=
  { previous with
    onMainScreen := true
    started := previous.started || panel.maxHealth ≠ 0
    health := panel.health
    maxHealth := panel.maxHealth
    magic := panel.magic
    maxMagic := panel.maxMagic
    armourClass := panel.armourClass
    strength := panel.strength
    evasion := panel.evasion
    intelligence := panel.intelligence
    shielding := panel.shielding
    dexterity := panel.dexterity
    experienceLevel := panel.level
    percentToNextLevel := panel.percent
    place := String.ofList panel.place
    noiseLevel := panel.noise
    gameTime := gameTime }

/-- A visible ASCII character. -/
def isVisible (character : Char) : Bool :=
  0x20 ≤ character.toNat && character.toNat ≤ 0x7E

/-- A character of a free line: any visible one that ends no label. -/
def isFree (character : Char) : Bool :=
  isVisible character && character ≠ ':'

/-- The panel can be drawn within its rectangle and be told apart again. -/
structure Drawable (panel : Panel) : Prop where
  free : ∀ character ∈ panel.name ++ panel.kind, isFree character = true
  bounded : ∀ number ∈ panel.numbers, number ≤ greatestNumber
  place_ne_nil : panel.place ≠ []
  place_belongs : ∀ character ∈ panel.place, isPlaceCharacter character = true
  /-- The place hides no label that comes after it. -/
  place_plain : occurs "Noise:".toList panel.place = false ∧ occurs "Time:".toList panel.place = false
  whole_ne_nil : panel.whole ≠ []
  fraction_ne_nil : panel.fraction ≠ []
  digits : ∀ character ∈ panel.whole ++ panel.fraction, character.isDigit = true
  narrow : ∀ line ∈ panel.lines, line.length ≤ 42

/-! ## The text of the panel -/

variable {panel : Panel} {size : Size}

theorem isVisible_of_isFree {character : Char} (free : isFree character = true) :
    isVisible character = true := by
  rw [isFree, Bool.and_eq_true] at free
  exact free.1

theorem isVisible_of_isDigit {character : Char} (digit : character.isDigit = true) :
    isVisible character = true := by
  have bounds := Terminal.Interpreter.isDigit_iff.mp digit
  rw [isVisible, Bool.and_eq_true, decide_eq_true_eq, decide_eq_true_eq]
  omega

theorem all_isVisible_decimal (number : Nat) : (Numeral.decimal number).all isVisible = true := by
  rw [List.all_eq_true]
  exact fun _ member => isVisible_of_isDigit (Numeral.isDigit_of_mem_decimal member)

theorem isVisible_of_isAlpha {character : Char} (letter : character.isAlpha = true) :
    isVisible character = true := by
  have bounds : ('A'.val ≤ character.val ∧ character.val ≤ 'Z'.val) ∨
      'a'.val ≤ character.val ∧ character.val ≤ 'z'.val := by
    rcases Bool.or_eq_true_iff.mp letter with upper | lower
    · exact .inl (of_decide_eq_true upper)
    · exact .inr ((Bool.and_eq_true_iff.mp lower).imp of_decide_eq_true of_decide_eq_true)
  simp only [UInt32.le_iff_toNat_le, Char.toNat_val, Char.reduceToNat] at bounds
  rw [isVisible, Bool.and_eq_true, decide_eq_true_eq, decide_eq_true_eq]
  omega

theorem isVisible_of_isPlaceCharacter {character : Char} (belongs : isPlaceCharacter character = true) :
    isVisible character = true := by
  rw [isPlaceCharacter, Bool.or_eq_true, decide_eq_true_eq] at belongs
  rcases belongs with alphanumeric | rfl
  · rcases Bool.or_eq_true_iff.mp alphanumeric with letter | digit
    · exact isVisible_of_isAlpha letter
    · exact isVisible_of_isDigit digit
  · rfl

theorem all_isVisible_lines (drawable : panel.Drawable) :
    ∀ line ∈ panel.lines, line.all isVisible = true := by
  have free : panel.name.all isVisible = true ∧ panel.kind.all isVisible = true := by
    rw [← Bool.and_eq_true, ← List.all_append, List.all_eq_true]
    exact fun _ member => isVisible_of_isFree (drawable.free _ member)
  have place : panel.place.all isVisible = true := by
    rw [List.all_eq_true]
    exact fun _ member => isVisible_of_isPlaceCharacter (drawable.place_belongs _ member)
  have digits : panel.whole.all isVisible = true ∧ panel.fraction.all isVisible = true := by
    rw [← Bool.and_eq_true, ← List.all_append, List.all_eq_true]
    exact fun _ member => isVisible_of_isDigit (drawable.digits _ member)
  have bar : panel.bar.all isVisible = true := by
    rw [List.all_eq_true]
    intro character member
    rw [List.eq_of_mem_replicate member]
    rfl
  rw [← List.all_eq_true]
  simp only [lines, labelled, slashed, experience, time, List.all_cons, List.all_append, List.all_nil,
    all_isVisible_decimal, free, place, digits, bar, Bool.and_true, Bool.true_and]
  decide

theorem fits_placards (drawable : panel.Drawable) (wide : 80 ≤ size.columns) (high : 9 ≤ size.rows) :
    ∀ placard ∈ panel.placards, placard.Fits size := by
  intro placard member
  obtain ⟨⟨line, index⟩, line_member, rfl⟩ := List.mem_map.mp member
  obtain ⟨inside, line_eq⟩ := List.mem_zipIdx' line_member
  have line_in : line ∈ panel.lines := line_eq ▸ List.getElem_mem inside
  have narrow := drawable.narrow line line_in
  have height : panel.lines.length = 9 := rfl
  refine ⟨?_, (by decide : 37 < Terminal.greatestParameter), ?_, ?_⟩
  · change index < min size.rows Terminal.greatestParameter
    rw [Terminal.greatestParameter]
    omega
  · change 37 + line.length < size.columns
    omega
  · intro character character_in
    have visible := List.all_eq_true.mp (all_isVisible_lines drawable line line_in) character character_in
    rwa [isVisible, Bool.and_eq_true, decide_eq_true_eq, decide_eq_true_eq] at visible

/-- A line of the panel as it is on the screen. -/
def shown (columns : Nat) (line : List Char) : Row :=
  (Row.blank columns).overlay near.column (line.map fun glyph => { glyph })

/-- Within the rectangle a line is filled up with blanks. -/
theorem glyphs_shown {line : List Char} {columns : Nat} (wide : 80 ≤ columns) (narrow : line.length ≤ 42) :
    ((shown columns line).glyphs.take 80).drop 37 = alignLeft 43 line := by
  have room : 37 + (line.map fun glyph => ({ glyph } : Cell)).length ≤ (Row.blank columns).length := by
    rw [List.length_map, Row.blank, List.length_replicate]
    omega
  have glyphs_eq : (shown columns line).glyphs = List.replicate 37 ' ' ++
      (line ++ List.replicate (columns - (37 + line.length)) ' ') := by
    have glyphs_back : (line.map fun glyph => ({ glyph } : Cell)).map Cell.glyph = line := by
      rw [List.map_map]
      exact List.map_id' line
    rw [shown, near, Row.overlay_eq room, Row.glyphs, List.map_append, List.map_append, Row.blank,
      List.take_replicate, List.drop_replicate, List.map_replicate, List.map_replicate, List.length_map,
      Nat.min_eq_left (by omega), glyphs_back, List.append_assoc]
    rfl
  have before : (List.replicate 37 ' ').length = 37 := List.length_replicate
  have cut : (80 : Nat) = (List.replicate 37 ' ').length + 43 := by rw [before]
  rw [glyphs_eq, cut, List.take_length_add_append, List.drop_left' before, List.take_append,
    List.take_of_length_le (by omega), List.take_replicate, Nat.min_eq_left (by omega), alignLeft]

theorem filter_zipIdx {α : Type} (entries : List α) (start index : Nat) :
    ((entries.zipIdx start).filter fun entry => entry.2 = start + index) =
      entries[index]?.toList.map fun entry => (entry, start + index) := by
  induction entries generalizing start index with
  | nil => rfl
  | cons first entries induction =>
      rw [List.zipIdx_cons, List.filter_cons]
      cases index with
      | zero =>
          have none : (entries.zipIdx (start + 1)).filter (fun entry => entry.2 = start + 0) = [] := by
            rw [List.filter_eq_nil_iff]
            intro entry member same
            have later := List.le_snd_of_mem_zipIdx member
            rw [decide_eq_true_eq] at same
            omega
          rw [none]
          simp
      | succ index =>
          have rest := induction (start + 1) index
          rw [Nat.add_right_comm, Nat.add_assoc] at rest
          rw [rest]
          simp

variable {order : List Terminal.Placard}

theorem lines_drawn (every : order.Perm panel.placards) {rows columns : Nat} (high : 9 ≤ rows) :
    (order.foldl Terminal.Placard.inscribe (List.replicate rows (Row.blank columns))).take 9 =
      panel.lines.map (shown columns) := by
  refine List.ext_getElem? fun index => ?_
  rw [List.getElem?_take, List.getElem?_map, Terminal.Placard.getElem?_foldl_inscribe]
  have height : panel.lines.length = 9 := rfl
  split
  · next inside =>
    obtain ⟨line, line_eq⟩ : ∃ line, panel.lines[index]? = some line :=
      ⟨_, List.getElem?_eq_getElem (height.symm ▸ inside)⟩
    have single : (order.filter fun placard => placard.position.row = index) =
        [⟨line, ⟨index, near.column⟩⟩] := by
      rw [← List.perm_singleton]
      have same := every.filter fun placard => decide (placard.position.row = index)
      have own := filter_zipIdx panel.lines 0 index
      rw [Nat.zero_add, line_eq] at own
      rw [placards, List.filter_map] at same
      simp only [Function.comp_def, own] at same
      exact same
    rw [single, line_eq, List.getElem?_replicate_of_lt (by omega)]
    rfl
  · next outside => rw [List.getElem?_eq_none (by omega), Option.map_none]

/-- The text of the rectangle is that of the panel, each line filled up. -/
theorem text_drawn (drawable : panel.Drawable) (wide : 80 ≤ size.columns) (high : 9 ≤ size.rows)
    (every : order.Perm panel.placards) :
    StatusPanel.text
        ((Terminal.Console.start size).display (order.flatMap Terminal.Placard.output)).terminal.screen =
      Screen.linesText (panel.lines.map (alignLeft 43)) := by
  have wide_start : 80 ≤ size.atLeastOne.columns := Nat.le_trans wide (Nat.le_max_left _ _)
  have high_start : 9 ≤ size.atLeastOne.rows := Nat.le_trans high (Nat.le_max_left _ _)
  have fits : ∀ placard ∈ order, placard.Fits size.atLeastOne := fun placard member =>
    fits_placards drawable wide_start high_start placard (every.mem_iff.mp member)
  have last_row : min far.row (size.atLeastOne.rows - 1) + 1 = 9 :=
    congrArg (· + 1) (Nat.min_eq_left (by change 8 ≤ _; omega))
  have last_column : min far.column (size.atLeastOne.columns - 1) + 1 = 80 :=
    congrArg (· + 1) (Nat.min_eq_left (by change 79 ≤ _; omega))
  rw [Terminal.Placard.screen_display rfl rfl fits, StatusPanel.text, Screen.regionText]
  change Screen.linesText (((List.take (min far.row (size.atLeastOne.rows - 1) + 1) (order.foldl
    Terminal.Placard.inscribe (List.replicate size.atLeastOne.rows (Row.blank size.atLeastOne.columns)))).drop
    0).map fun row => (row.glyphs.take (min far.column (size.atLeastOne.columns - 1) + 1)).drop 37) = _
  rw [last_row, last_column, lines_drawn every high_start, List.drop_zero, List.map_map]
  exact congrArg Screen.linesText (List.map_congr_left fun line member =>
    glyphs_shown wide_start (drawable.narrow line member))

/-! ## Reading the text -/

/-- What fills up a line, and its end. -/
def margin (panel : Panel) (lineEnd : List Char) (index : Nat) : List Char :=
  List.replicate (43 - (panel.lines.getD index []).length) ' ' ++ lineEnd

/-- The two free lines. -/
def heading (panel : Panel) (lineEnd : List Char) : List Char :=
  panel.name ++ (panel.margin lineEnd 0 ++ panel.kind)

/-- The labelled values in the order of the lines. -/
def entries (panel : Panel) (lineEnd : List Char) : List Entry :=
  [ ⟨"Health:".toList, slashed panel.health panel.maxHealth, panel.margin lineEnd 2⟩,
    ⟨"Magic:".toList, slashed panel.magic panel.maxMagic, panel.margin lineEnd 3⟩,
    ⟨"AC:".toList, Numeral.decimal panel.armourClass, [' ']⟩,
    ⟨"Str:".toList, Numeral.decimal panel.strength, panel.margin lineEnd 4⟩,
    ⟨"EV:".toList, Numeral.decimal panel.evasion, [' ']⟩,
    ⟨"Int:".toList, Numeral.decimal panel.intelligence, panel.margin lineEnd 5⟩,
    ⟨"SH:".toList, Numeral.decimal panel.shielding, [' ']⟩,
    ⟨"Dex:".toList, Numeral.decimal panel.dexterity, panel.margin lineEnd 6⟩,
    ⟨"XL:".toList, panel.experience, [' ']⟩,
    ⟨"Place:".toList, panel.place, panel.margin lineEnd 7⟩,
    ⟨"Noise:".toList, panel.bar, [' ']⟩,
    ⟨"Time:".toList, panel.time, panel.margin lineEnd 8⟩ ]

theorem flatMap_lines (lineEnd : List Char) :
    (panel.lines.map (alignLeft 43)).flatMap (fun line => line ++ lineEnd) =
      panel.heading lineEnd ++ (panel.margin lineEnd 1 ++ entriesText (panel.entries lineEnd)) := by
  simp [lines, heading, margin, entries, entriesText, Entry.text, alignLeft, labelled]

/-! ## Labels in order -/

theorem isGap_margin {lineEnd : List Char} (ends : ∀ character ∈ lineEnd, isGap character = true)
    (index : Nat) : ∀ character ∈ panel.margin lineEnd index, isGap character = true := by
  intro character member
  rcases List.mem_append.mp member with blank | line_end
  · rw [List.eq_of_mem_replicate blank]
    rfl
  · exact ends character line_end

theorem margin_ne_nil (drawable : panel.Drawable) (lineEnd : List Char) (index : Nat) :
    panel.margin lineEnd index ≠ [] := by
  have narrow : (panel.lines.getD index []).length ≤ 42 := by
    rw [List.getD_eq_getElem?_getD]
    cases found : panel.lines[index]? with
    | none => exact Nat.zero_le 42
    | some line => exact drawable.narrow line (List.mem_of_getElem? found)
  rw [margin]
  refine List.append_ne_nil_of_left_ne_nil ?_ lineEnd
  rw [ne_eq, List.replicate_eq_nil_iff]
  omega

/-- The labels in their order. -/
def labels : List (List Char) :=
  ["Health:".toList, "Magic:".toList, "AC:".toList, "Str:".toList, "EV:".toList, "Int:".toList,
    "SH:".toList, "Dex:".toList, "XL:".toList, "Place:".toList, "Noise:".toList, "Time:".toList]

theorem parted_entries (drawable : panel.Drawable) {lineEnd : List Char}
    (ends : ∀ character ∈ lineEnd, isGap character = true) :
    ∀ entry ∈ panel.entries lineEnd, entry.Parted := by
  have labels_parted : ∀ label ∈ labels, label ≠ [] ∧ label.any isGap = false := by
    decide
  have gaps : ∀ gap ∈ (panel.entries lineEnd).map Entry.gap,
      gap = [' '] ∨ ∃ index, gap = panel.margin lineEnd index := by
    simp [entries]
  intro entry member
  obtain ⟨some, solid⟩ := labels_parted entry.label (List.mem_map_of_mem member)
  have label_solid : ∀ character ∈ entry.label, isGap character = false := fun character inside =>
    Bool.eq_false_iff.mpr (List.any_eq_false.mp solid character inside)
  rcases gaps entry.gap (List.mem_map_of_mem member) with blank | ⟨index, margin⟩
  · refine ⟨some, label_solid, ?_, ?_⟩
    · rw [blank]
      exact List.cons_ne_nil _ _
    · rw [blank]
      exact List.forall_mem_singleton.mpr rfl
  · refine ⟨some, label_solid, ?_, ?_⟩
    · rw [margin]
      exact margin_ne_nil drawable lineEnd index
    · rw [margin]
      exact isGap_margin ends index

/-- A label occurs in no text without a colon. -/
theorem occurs_eq_false {label text : List Char} (colon : ':' ∈ label) (plain : ':' ∉ text) :
    occurs label text = false :=
  Bool.eq_false_iff.mpr fun found => plain (mem_of_occurs found colon)

theorem colon_notMem_decimal (number : Nat) : ':' ∉ Numeral.decimal number := fun member =>
  absurd (Numeral.isDigit_of_mem_decimal member) (by decide)

theorem colon_notMem_slashed (first second : Nat) : ':' ∉ slashed first second := by
  simp [slashed, colon_notMem_decimal]

theorem colon_notMem_bar : ':' ∉ panel.bar := fun member =>
  absurd (List.eq_of_mem_replicate member) (by decide)

theorem occurs_experience {label : List Char} (separates : ' ' ∉ label) (colon : ':' ∈ label)
    (different : occurs label "Next:".toList = false) : occurs label panel.experience = false := by
  have nonempty := List.ne_nil_of_mem colon
  have percent : ':' ∉ Numeral.decimal panel.percent ++ ['%'] := by
    simp [colon_notMem_decimal]
  have split : panel.experience = Numeral.decimal panel.level ++
      ' ' :: ("Next:".toList ++ ' ' :: (Numeral.decimal panel.percent ++ ['%'])) := by
    rw [experience, List.append_assoc]
    rfl
  rw [split, occurs_separated separates nonempty, occurs_separated separates nonempty,
    occurs_eq_false colon (colon_notMem_decimal _), different, occurs_eq_false colon percent]
  rfl

/-- No label occurs in an entry before its own. -/
theorem apart_entries (drawable : panel.Drawable) (lineEnd : List Char) :
    (panel.entries lineEnd).Pairwise fun earlier later => earlier.Lacks later.label := by
  have labels_apart : labels.Pairwise fun earlier later => occurs later earlier = false := by
    decide
  have colons : ∀ label ∈ labels, ':' ∈ label := by
    decide
  have plain {value : List Char} (none : ':' ∉ value) (later : List Entry) :
      ∀ entry ∈ later, ':' ∈ entry.label → occurs entry.label value = false :=
    fun _ _ colon => occurs_eq_false colon none
  have behind_experience : ∀ entry ∈ (panel.entries lineEnd).drop 9, ':' ∈ entry.label →
      occurs entry.label panel.experience = false := by
    intro entry member colon
    have label_member : entry.label ∈ ["Place:".toList, "Noise:".toList, "Time:".toList] :=
      List.mem_map_of_mem member
    have told : ∀ label ∈ ["Place:".toList, "Noise:".toList, "Time:".toList],
        ' ' ∉ label ∧ occurs label "Next:".toList = false := by
      decide
    exact occurs_experience (told _ label_member).1 colon (told _ label_member).2
  have behind_place : ∀ entry ∈ (panel.entries lineEnd).drop 10, ':' ∈ entry.label →
      occurs entry.label panel.place = false := by
    intro entry member _
    have label_member : entry.label ∈ ["Noise:".toList, "Time:".toList] := List.mem_map_of_mem member
    rcases List.mem_pair.mp label_member with noise | time
    · rw [noise]
      exact drawable.place_plain.1
    · rw [time]
      exact drawable.place_plain.2
  have values_apart : (panel.entries lineEnd).Pairwise fun earlier later =>
      ':' ∈ later.label → occurs later.label earlier.value = false :=
    .cons (plain (colon_notMem_slashed _ _) _) <| .cons (plain (colon_notMem_slashed _ _) _) <|
      .cons (plain (colon_notMem_decimal _) _) <| .cons (plain (colon_notMem_decimal _) _) <|
      .cons (plain (colon_notMem_decimal _) _) <| .cons (plain (colon_notMem_decimal _) _) <|
      .cons (plain (colon_notMem_decimal _) _) <| .cons (plain (colon_notMem_decimal _) _) <|
      .cons behind_experience <| .cons behind_place <| .cons (plain colon_notMem_bar _) <|
      List.pairwise_singleton _ _
  have labels_apart' := List.pairwise_map.mp (show ((panel.entries lineEnd).map Entry.label).Pairwise _ from
    labels_apart)
  refine (labels_apart'.and values_apart).imp_of_mem fun _ later told => ?_
  exact ⟨told.1, told.2 (colons _ (List.mem_map_of_mem later))⟩

/-! ## Reading the values -/

/-- The text of the panel with the given line ends. -/
def content (panel : Panel) (lineEnd : List Char) : List Char :=
  (panel.lines.map (alignLeft 43)).flatMap fun line => line ++ lineEnd

theorem colon_notMem_heading (drawable : panel.Drawable) {lineEnd : List Char} (plain : ':' ∉ lineEnd) :
    ':' ∉ panel.heading lineEnd := by
  have not_free : isFree ':' = false := by decide
  intro member
  rcases List.mem_append.mp member with name | rest
  · exact ne_of_holds (drawable.free _ (List.mem_append_left _ name)) not_free rfl
  · rcases List.mem_append.mp rest with margin | kind
    · rcases List.mem_append.mp margin with blank | line_end
      · exact absurd (List.eq_of_mem_replicate blank) (by decide)
      · exact plain line_end
    · exact ne_of_holds (drawable.free _ (List.mem_append_right _ kind)) not_free rfl

/-- The panel is recognised by its labels, whatever the free lines say. -/
theorem inOrder_content (drawable : panel.Drawable) :
    inOrder 1 landmarks (panel.content ['\n']) = true := by
  have ends : ∀ character ∈ ['\n'], isGap character = true := List.forall_mem_singleton.mpr rfl
  have plain : ':' ∉ panel.heading ['\n'] := colon_notMem_heading drawable (by decide)
  have colons : ∀ label ∈ labels, ':' ∈ label := by decide
  rw [content, flatMap_lines]
  refine inOrder_labels (parted_entries drawable ends) (apart_entries drawable _) ?_
    (margin_ne_nil drawable _ 1) (isGap_margin ends 1) 4
  exact fun entry member => occurs_eq_false (colons _ (List.mem_map_of_mem member)) plain

theorem readAfter_content (drawable : panel.Drawable) {α : Type} {read : List Char → Option α} {value : α}
    {entry : Entry} {index : Nat} (place : (panel.entries [])[index]? = some entry)
    (readable : read (' ' :: (entry.value ++
      (entry.gap ++ entriesText ((panel.entries []).drop (index + 1))))) = some value) :
    readAfter entry.label read (panel.content []) = some value := by
  have ends : ∀ character ∈ [], isGap character = true := List.forall_mem_nil _
  have colons : ∀ label ∈ labels, ':' ∈ label := by decide
  have member := List.mem_of_getElem? place
  have parted := parted_entries drawable ends
  have absent : occurs entry.label (panel.heading []) = false :=
    occurs_eq_false (colons _ (List.mem_map_of_mem member))
      (colon_notMem_heading drawable List.not_mem_nil)
  rw [content, flatMap_lines, readAfter_passed (parted entry member).label_ne_nil
    (parted entry member).label_solid absent (margin_ne_nil drawable _ 1) (isGap_margin ends 1)]
  exact readAfter_entries parted (apart_entries drawable _) place readable

/-- A gap ends every value. -/
theorem stopped_gap (drawable : panel.Drawable) {belongs : Char → Bool} {entry : Entry}
    (member : entry ∈ panel.entries []) (outside : belongs ' ' = false ∧ belongs '\n' = false)
    (rest : List Char) : ∀ character ∈ (entry.gap ++ rest).head?, belongs character = false := by
  have parted := parted_entries drawable (List.forall_mem_nil _) entry member
  intro character first
  rw [List.head?_append_of_ne_nil _ parted.gap_ne_nil] at first
  have gap := parted.gap_blank character (List.mem_of_head? first)
  rw [isGap, Bool.or_eq_true, decide_eq_true_eq, decide_eq_true_eq] at gap
  rcases gap with rfl | rfl
  · exact outside.1
  · exact outside.2

section Values

variable (drawable : panel.Drawable) {gap : List Char} {first second : Nat}

include drawable

theorem one?_content (label : String) (index : Nat)
    (place : (panel.entries [])[index]? = some ⟨label.toList, Numeral.decimal first, gap⟩)
    (bounded : first ∈ panel.numbers) : one? label (panel.content []) = some (first : Int) := by
  have stopped := stopped_gap drawable (List.mem_of_getElem? place)
    (by decide : isDecimalDigit ' ' = false ∧ isDecimalDigit '\n' = false)
  have digits := readAfter_content drawable place (oneForm_decimal (stopped _))
  rw [one?, digits, Option.bind_some, number?_decimal (drawable.bounded first bounded)]

theorem two?_decimal (bounded : first ∈ panel.numbers) (bounded_second : second ∈ panel.numbers) :
    two? (some (Numeral.decimal first, Numeral.decimal second)) = some ((first : Int), (second : Int)) := by
  rw [two?, Option.bind_some, number?_decimal (drawable.bounded first bounded), Option.bind_some,
    number?_decimal (drawable.bounded second bounded_second), Option.map_some]

theorem slashed_content (label : String) (index : Nat)
    (place : (panel.entries [])[index]? = some ⟨label.toList, slashed first second, gap⟩)
    (bounded : first ∈ panel.numbers) (bounded_second : second ∈ panel.numbers) :
    two? (readAfter label.toList slashForm (panel.content [])) = some ((first : Int), (second : Int)) := by
  have stopped := stopped_gap drawable (List.mem_of_getElem? place)
    (by decide : isDecimalDigit ' ' = false ∧ isDecimalDigit '\n' = false)
  have readable (rest : List Char) : slashForm (' ' :: (slashed first second ++ (gap ++ rest))) =
      some (Numeral.decimal first, Numeral.decimal second) := by
    rw [slashed, List.append_assoc, List.cons_append]
    exact slashForm_decimal (stopped rest)
  rw [readAfter_content drawable place (readable _), two?_decimal drawable bounded bounded_second]

theorem experience_content :
    two? (readAfter "XL:".toList experienceForm (panel.content [])) =
      some ((panel.level : Int), (panel.percent : Int)) := by
  have readable (rest : List Char) : experienceForm (' ' :: (panel.experience ++ ([' '] ++ rest))) =
      some (Numeral.decimal panel.level, Numeral.decimal panel.percent) := by
    have shape : panel.experience ++ ([' '] ++ rest) = Numeral.decimal panel.level ++
        " Next: ".toList ++ (Numeral.decimal panel.percent ++ '%' :: ' ' :: rest) := by
      rw [experience, List.append_assoc, List.append_assoc (Numeral.decimal panel.percent)]
      rfl
    rw [shape]
    exact experienceForm_decimal
  have place : (panel.entries [])[8]? = some ⟨"XL:".toList, panel.experience, [' ']⟩ := rfl
  rw [readAfter_content drawable place (readable _)]
  exact two?_decimal drawable (by simp [numbers]) (by simp [numbers])

theorem place_content :
    readAfter "Place:".toList (wordForm isPlaceCharacter) (panel.content []) = some panel.place := by
  have place : (panel.entries [])[9]? = some ⟨"Place:".toList, panel.place, panel.margin [] 7⟩ := rfl
  have stopped := stopped_gap drawable (List.mem_of_getElem? place)
    (by decide : isPlaceCharacter ' ' = false ∧ isPlaceCharacter '\n' = false)
  exact readAfter_content drawable place
    (wordForm_append drawable.place_ne_nil drawable.place_belongs (by decide) (stopped _))

theorem bar_content : readAfter "Noise:".toList barForm (panel.content []) = some panel.bar := by
  have place : (panel.entries [])[10]? = some ⟨"Noise:".toList, panel.bar, [' ']⟩ := rfl
  refine readAfter_content drawable place (barForm_replicate panel.noise ?_)
  rintro _ ⟨⟩
  decide

theorem time_content :
    readAfter "Time:".toList (wordForm isTimeCharacter) (panel.content []) = some panel.time := by
  have place : (panel.entries [])[11]? = some ⟨"Time:".toList, panel.time, panel.margin [] 8⟩ := rfl
  have stopped := stopped_gap drawable (List.mem_of_getElem? place)
    (by decide : isTimeCharacter ' ' = false ∧ isTimeCharacter '\n' = false)
  have nonempty : panel.time ≠ [] := List.append_ne_nil_of_left_ne_nil drawable.whole_ne_nil _
  have belongs : ∀ character ∈ panel.time, isTimeCharacter character = true := by
    intro character member
    rw [isTimeCharacter, Bool.or_eq_true, decide_eq_true_eq]
    have cases : character ∈ panel.whole ++ panel.fraction ∨ character = '.' := by
      rw [time, List.mem_append, List.mem_cons] at member
      rw [List.mem_append]
      tauto
    exact cases.imp_left fun digit => isDecimalDigit_of_isDigit (drawable.digits character digit)
  exact readAfter_content drawable place (wordForm_append nonempty belongs (by decide) (stopped _))

theorem read?_time : Binary64.read? panel.time =
    some (.ofDecimal (Nat.ofDigitChars 10 (panel.whole ++ panel.fraction) 0) (-panel.fraction.length)) := by
  have plain : ∀ character ∈ panel.whole, decide (character ≠ '.') = true := by
    intro character member
    have digit := drawable.digits character (List.mem_append_left _ member)
    exact decide_eq_true (ne_of_holds digit (by decide))
  have point : ∀ character ∈ ('.' :: panel.fraction).head?, decide (character ≠ '.') = false :=
    forall_mem_head?_cons (by decide : decide ('.' ≠ '.') = false) _
  have some_digit : panel.whole ++ panel.fraction ≠ [] :=
    List.append_ne_nil_of_left_ne_nil drawable.whole_ne_nil _
  rw [Binary64.read?, time, takeWhile_append plain point, dropWhile_append plain point]
  simp only [List.drop_succ_cons, List.drop_zero]
  rw [Numeral.value?_digits some_digit drawable.digits, Option.map_some]

/-- The reading of the text has every value of the panel. -/
theorem reading_content :
    Reading.of (panel.content []) =
      { health := some (panel.health, panel.maxHealth)
        magic := some (panel.magic, panel.maxMagic)
        experience := some (panel.level, panel.percent)
        armourClass := some panel.armourClass
        evasion := some panel.evasion
        shielding := some panel.shielding
        strength := some panel.strength
        intelligence := some panel.intelligence
        dexterity := some panel.dexterity
        gameTime := Binary64.read? panel.time
        place := some (String.ofList panel.place)
        noiseLevel := panel.noise } := by
  have listed : panel.numbers = [panel.health, panel.maxHealth, panel.magic, panel.maxMagic,
      panel.armourClass, panel.strength, panel.evasion, panel.intelligence, panel.shielding,
      panel.dexterity, panel.level, panel.percent] := rfl
  have health := slashed_content drawable "Health:" 0 rfl (by simp [listed]) (by simp [listed])
  have magic := slashed_content drawable "Magic:" 1 rfl (by simp [listed]) (by simp [listed])
  have armourClass := one?_content drawable "AC:" 2 rfl (by simp [listed])
  have strength := one?_content drawable "Str:" 3 rfl (by simp [listed])
  have evasion := one?_content drawable "EV:" 4 rfl (by simp [listed])
  have intelligence := one?_content drawable "Int:" 5 rfl (by simp [listed])
  have shielding := one?_content drawable "SH:" 6 rfl (by simp [listed])
  have dexterity := one?_content drawable "Dex:" 7 rfl (by simp [listed])
  rw [Reading.of, health, magic, experience_content drawable, armourClass, evasion, shielding, strength,
    intelligence, dexterity, time_content drawable, place_content drawable, bar_content drawable]
  simp [bar]

end Values

/-! ## Drawing and reading -/

theorem without_content (drawable : panel.Drawable) :
    without '\n' (panel.content ['\n']) = panel.content [] := by
  have solid : ∀ line ∈ panel.lines.map (alignLeft 43), without '\n' line = line := by
    intro filled member
    obtain ⟨line, line_member, rfl⟩ := List.mem_map.mp member
    refine without_of_notMem fun inside => ?_
    rcases List.mem_append.mp inside with written | blank
    · exact absurd (List.all_eq_true.mp (all_isVisible_lines drawable line line_member) _ written) (by decide)
    · exact absurd (List.eq_of_mem_replicate blank) (by decide)
  rw [content, content]
  generalize panel.lines.map (alignLeft 43) = filled at solid
  induction filled with
  | nil => rfl
  | cons line lines induction =>
      obtain ⟨here, later⟩ := List.forall_mem_cons.mp solid
      rw [List.flatMap_cons, List.flatMap_cons, without_append, without_append, here, induction later]
      rfl

end Panel

/--
A panel that can be drawn is read back exactly, on every screen that has room for it and whatever was
known before. Its lines may be sent to a fresh terminal in any order.
-/
theorem snapshot_of_drawn {panel : Panel} (drawable : panel.Drawable) {size : Size}
    (wide : 80 ≤ size.columns) (high : 9 ≤ size.rows) {order : List Terminal.Placard}
    (every : order.Perm panel.placards) (previous : Snapshot) :
    let screen :=
      ((Terminal.Console.start size).display (order.flatMap Terminal.Placard.output)).terminal.screen
    isShown screen = true ∧
      ∃ time, Binary64.read? panel.time = some time ∧
        snapshot screen previous = panel.drawnOver time previous := by
  have text_eq := Panel.text_drawn drawable wide high every
  intro screen
  have recognised : isShown screen = true := by
    rw [isShown, text_eq]
    exact Panel.inOrder_content drawable
  refine ⟨recognised, _, Panel.read?_time drawable, ?_⟩
  have content_eq : without '\n' (text screen) = panel.content [] := by
    rw [text_eq]
    exact Panel.without_content drawable
  have started : decide ((panel.maxHealth : Int) ≠ 0) = decide (panel.maxHealth ≠ 0) := by
    rw [decide_eq_decide, ne_eq, Int.natCast_eq_zero]
  rw [snapshot, if_pos recognised, content_eq, snapshotOfText, Panel.reading_content drawable,
    Panel.read?_time drawable, Panel.drawnOver, ← started]
  rfl

/-- A panel on the smallest screen, drawn from its last line to its first. -/
theorem snapshot_of_drawn_backwards :
    let panel : Panel :=
      { name := "Bob the Skirmisher".toList, kind := "Minotaur".toList, health := 10, maxHealth := 21,
        magic := 0, maxMagic := 2147483647, armourClass := 3, strength := 18, evasion := 9,
        intelligence := 7, shielding := 0, dexterity := 12, level := 1, percent := 0,
        place := "Dungeon:1".toList, noise := 0, whole := "12".toList, fraction := "5".toList }
    panel.Drawable ∧ panel.placards.reverse.Perm panel.placards ∧
      isShown ((Terminal.Console.start ⟨80, 9⟩).display
        (panel.placards.reverse.flatMap Terminal.Placard.output)).terminal.screen = true := by
  intro panel
  have drawable : panel.Drawable :=
    { free := List.all_eq_true.mp (by decide)
      bounded := by decide
      place_ne_nil := by decide
      place_belongs := List.all_eq_true.mp (by decide)
      place_plain := by decide
      whole_ne_nil := by decide
      fraction_ne_nil := by decide
      digits := List.all_eq_true.mp (by decide)
      narrow := by decide }
  have every : panel.placards.reverse.Perm panel.placards := List.reverse_perm _
  have wide : 80 ≤ Size.columns ⟨80, 9⟩ := Nat.le_refl 80
  have high : 9 ≤ Size.rows ⟨80, 9⟩ := Nat.le_refl 9
  exact ⟨drawable, every, (snapshot_of_drawn drawable wide high every {}).1⟩

end RoguePilot.StatusPanel
