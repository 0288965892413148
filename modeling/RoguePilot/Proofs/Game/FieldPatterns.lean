import Mathlib.Data.List.TakeWhile
import RoguePilot.Game.StatusPanel
import RoguePilot.Proofs.Number.Numeral
import RoguePilot.Proofs.Text.Pattern

/-!
# The patterns of the fields

Every field of the panel has a pattern: its label, blanks, and a value of its form, whose parts are kept.
Reading a field takes what a search for its pattern keeps, although it never gives a character back: no form
goes on with a character of the run before it. So a field has the value behind the first place of its label
behind which a value of the form stands. A value that is no number of the game is not tried again elsewhere.
-/

namespace RoguePilot.StatusPanel

open Text

/-! ## Patterns -/

/-- Any number of blanks. -/
def blanks : Pattern :=
  .many (· = ' ')

/-- Digits that are kept. -/
def digits : Pattern :=
  .kept (.several isDecimalDigit)

/-- A label and a run of characters of one kind. -/
def runPattern (label : String) (belongs : Char → Bool) : Pattern :=
  .inTurn [.word label.toList, blanks, .kept (.several belongs)]

/-- A label and two numbers with a slash between them. -/
def pairPattern (label : String) : Pattern :=
  .inTurn [.word label.toList, blanks, digits, .word ['/'], digits]

/-- The experience level and the way to the next one. -/
def experiencePattern : Pattern :=
  .inTurn [.word "XL:".toList, blanks, digits, blanks, .word "Next:".toList, blanks, digits]

/-- The bar of noise, which may be empty. -/
def barPattern : Pattern :=
  .inTurn [.word "Noise:".toList, blanks, .kept (.many (· = '='))]

/-- The part that is kept first, and the one that is kept next. -/
def keptPair (kept : List (List Char)) : List Char × List Char :=
  (kept.getD 0 [], kept.getD 1 [])

/-- The first part that a search for a pattern keeps. -/
def firstKeptBy (pattern : Pattern) (text : List Char) : Option (List Char) :=
  (pattern.keptBy text).map fun kept => (keptPair kept).1

/-- What the patterns of the fields find in a text. -/
def Reading.matching (text : List Char) : Reading where
  health := two? (((pairPattern "Health:").keptBy text).map keptPair)
  magic := two? (((pairPattern "Magic:").keptBy text).map keptPair)
  experience := two? ((experiencePattern.keptBy text).map keptPair)
  armourClass := (firstKeptBy (runPattern "AC:" isDecimalDigit) text).bind number?
  evasion := (firstKeptBy (runPattern "EV:" isDecimalDigit) text).bind number?
  shielding := (firstKeptBy (runPattern "SH:" isDecimalDigit) text).bind number?
  strength := (firstKeptBy (runPattern "Str:" isDecimalDigit) text).bind number?
  intelligence := (firstKeptBy (runPattern "Int:" isDecimalDigit) text).bind number?
  dexterity := (firstKeptBy (runPattern "Dex:" isDecimalDigit) text).bind number?
  gameTime := (firstKeptBy (runPattern "Time:" isTimeCharacter) text).bind Binary64.read?
  place := (firstKeptBy (runPattern "Place:" isPlaceCharacter) text).map String.ofList
  noiseLevel := ((firstKeptBy barPattern text).map List.length).getD 0

/-! ## Reading agrees with the patterns -/

section Agreement

variable {α : Type} {label text : List Char} {tail : Pattern} {read : List Char → Option α}
  {shape : List (List Char) → α} {belongs : Char → Bool}

/-- A form is read wherever the pattern matches, from the parts that are kept. -/
def Agrees (read : List Char → Option α) (tail : Pattern) (shape : List (List Char) → α) : Prop :=
  ∀ text, read text = (tail.keptAt text).map shape

theorem readAfter_eq_keptBy (agrees : Agrees read tail shape) :
    readAfter label read text = ((Pattern.both (.word label) tail).keptBy text).map shape := by
  have here (text : List Char) : (dropWord label text).bind read =
      ((Pattern.both (.word label) tail).keptAt text).map shape := by
    rw [Pattern.keptAt_word_both, Option.map_bind]
    exact congrArg _ (funext agrees)
  induction text with
  | nil => rw [readAfter, here, Pattern.keptBy_nil]
  | cons character text induction =>
      rw [readAfter, here, Pattern.keptBy_cons, induction]
      cases (Pattern.both (.word label) tail).keptAt (character :: text) with
      | some kept => rfl
      | none => rfl

theorem keptAt_blanks_both (refuses : tail.Refuses (· = ' ')) :
    (Pattern.both blanks tail).keptAt text = tail.keptAt (skipSpaces text) :=
  Pattern.keptAt_many_both refuses

theorem refuses_blank_several (solid : belongs ' ' = false) :
    (Pattern.several belongs).Refuses (· = ' ') :=
  Pattern.refuses_several fun _ blank => of_decide_eq_true blank ▸ solid

theorem agrees_wordForm (solid : belongs ' ' = false) :
    Agrees (wordForm belongs) (.inTurn [blanks, .kept (.several belongs)]) fun kept => (keptPair kept).1 := by
  intro text
  rw [Pattern.inTurn, Pattern.inTurn, keptAt_blanks_both (refuses_blank_several solid).kept,
    Pattern.keptAt_kept_several, wordForm]
  cases ((skipSpaces text).takeWhile belongs).isEmpty with
  | true => rfl
  | false => rfl

theorem refuses_blank_digits : digits.Refuses (· = ' ') :=
  (refuses_blank_several (by decide)).kept

/-- Digits after blanks are read by their pattern, and the rest is left to what follows. -/
theorem keptAt_blanks_digits_both (refuses : tail.Refuses isDecimalDigit) :
    (Pattern.both blanks (.both digits tail)).keptAt text =
      (digits? text).bind fun first => (tail.keptAt first.2).map (first.1 :: ·) := by
  rw [keptAt_blanks_both refuses_blank_digits.both, digits, Pattern.keptAt_kept_several_both refuses, digits?]
  cases ((skipSpaces text).takeWhile isDecimalDigit).isEmpty with
  | true => rfl
  | false => rfl

theorem oneForm_eq_wordForm (text : List Char) : oneForm text = wordForm isDecimalDigit text := by
  rw [oneForm, digits?, wordForm]
  cases ((skipSpaces text).takeWhile isDecimalDigit).isEmpty with
  | true => rfl
  | false => rfl

theorem agrees_oneForm : Agrees oneForm (.inTurn [blanks, digits]) fun kept => (keptPair kept).1 := by
  intro text
  rw [oneForm_eq_wordForm]
  exact agrees_wordForm (by decide) text

theorem agrees_slashForm :
    Agrees slashForm (.inTurn [blanks, digits, .word ['/'], digits]) keptPair := by
  have refuses : (Pattern.both (.word ['/']) digits).Refuses isDecimalDigit :=
    (Pattern.refuses_word (by decide)).both
  intro text
  rw [Pattern.inTurn, Pattern.inTurn, Pattern.inTurn, Pattern.inTurn, keptAt_blanks_digits_both refuses,
    slashForm, Option.map_bind]
  refine congrArg _ (funext fun first => ?_)
  rw [Function.comp, Pattern.keptAt_word_both]
  cases dropped : dropWord ['/'] first.2 with
  | none =>
      split
      · next rest rest_eq =>
        rw [rest_eq] at dropped
        exact nomatch dropped
      · rfl
  | some rest =>
      have rest_eq : first.2 = '/' :: rest := dropWord_eq_some.mp dropped
      rw [rest_eq, Option.bind_some, digits, Pattern.keptAt_kept_several]
      cases none : (rest.takeWhile isDecimalDigit).isEmpty with
      | true => exact if_pos none
      | false => exact if_neg (Bool.eq_false_iff.mp none)

theorem agrees_experienceForm :
    Agrees experienceForm
      (.inTurn [blanks, digits, blanks, .word "Next:".toList, blanks, digits]) keptPair := by
  have apart : ∀ character, isDecimalDigit character = true → decide (character = ' ') = false :=
    fun character digit => decide_eq_false (ne_of_holds digit (by decide))
  have next_refuses {belongs : Char → Bool} (apart : belongs 'N' = false) :
      (Pattern.both (.word "Next:".toList) (.both blanks digits)).Refuses belongs :=
    (Pattern.refuses_word apart).both
  have refuses : (Pattern.both blanks (.both (.word "Next:".toList) (.both blanks digits))).Refuses
      isDecimalDigit := (next_refuses (by decide)).many_both apart
  intro text
  rw [Pattern.inTurn, Pattern.inTurn, Pattern.inTurn, Pattern.inTurn, Pattern.inTurn, Pattern.inTurn,
    keptAt_blanks_digits_both refuses, experienceForm, Option.map_bind]
  refine congrArg _ (funext fun first => ?_)
  rw [Function.comp, keptAt_blanks_both (next_refuses (by decide)), Pattern.keptAt_word_both]
  cases dropWord "Next:".toList (skipSpaces first.2) with
  | none => rfl
  | some rest =>
      have read := agrees_oneForm rest
      rw [Pattern.inTurn, Pattern.inTurn] at read
      rw [Option.bind_some, Option.bind_some, read, Option.map_map, Option.map_map]
      rfl

theorem agrees_barForm :
    Agrees barForm (.inTurn [blanks, .kept (.many (· = '='))]) fun kept => (keptPair kept).1 := by
  intro text
  rw [Pattern.inTurn, Pattern.inTurn, blanks,
    Pattern.keptAt_many_both_of_some Pattern.keptAt_kept_many, barForm]
  rfl

/-- What is read from a text is what the patterns of the fields find in it. -/
theorem reading_eq_matching (text : List Char) : Reading.of text = Reading.matching text := by
  have run {belongs : Char → Bool} (solid : belongs ' ' = false) (label : String) :
      readAfter label.toList (wordForm belongs) text = firstKeptBy (runPattern label belongs) text :=
    readAfter_eq_keptBy (agrees_wordForm solid)
  have one (label : String) :
      one? label text = (firstKeptBy (runPattern label isDecimalDigit) text).bind number? :=
    congrArg (·.bind number?) (readAfter_eq_keptBy agrees_oneForm)
  have pair (label : String) :
      readAfter label.toList slashForm text = ((pairPattern label).keptBy text).map keptPair :=
    readAfter_eq_keptBy agrees_slashForm
  have experience : readAfter "XL:".toList experienceForm text =
      (experiencePattern.keptBy text).map keptPair := readAfter_eq_keptBy agrees_experienceForm
  have bar : readAfter "Noise:".toList barForm text = firstKeptBy barPattern text :=
    readAfter_eq_keptBy agrees_barForm
  rw [Reading.of, Reading.matching, run (by decide), run (by decide), bar, experience, pair, pair, one, one,
    one, one, one, one]

end Agreement

/-! ## Values as they stand -/

/-- The text begins with a run of characters of one kind that is not empty and does not go on. -/
structure BeginsWithRun (belongs : Char → Bool) (text run rest : List Char) : Prop where
  text_eq : text = run ++ rest
  run_ne_nil : run ≠ []
  all : ∀ character ∈ run, belongs character = true
  stopped : ∀ character ∈ rest.head?, belongs character = false

/-- The text begins with any number of blanks and such a run. -/
def ShowsRun (belongs : Char → Bool) (text run rest : List Char) : Prop :=
  ∃ gap later, text = gap ++ later ∧ (∀ character ∈ gap, character = ' ') ∧ BeginsWithRun belongs later run rest

/-- The text begins with any number of blanks and this run. -/
def ShowsWord (belongs : Char → Bool) (text run : List Char) : Prop :=
  ∃ rest, ShowsRun belongs text run rest

/-- The text begins with blanks, digits, a slash and digits. -/
def ShowsPair (text : List Char) (pair : List Char × List Char) : Prop :=
  ∃ middle rest, ShowsRun isDecimalDigit text pair.1 ('/' :: middle) ∧
    BeginsWithRun isDecimalDigit middle pair.2 rest

/-- The text begins with blanks, digits, blanks, the label of the way to the next level, blanks and digits. -/
def ShowsExperience (text : List Char) (pair : List Char × List Char) : Prop :=
  ∃ gap middle rest, ShowsRun isDecimalDigit text pair.1 (gap ++ ("Next:".toList ++ middle)) ∧
    (∀ character ∈ gap, character = ' ') ∧ ShowsRun isDecimalDigit middle pair.2 rest

/-- The digits are ASCII digits and stand for the value, which the game can show. -/
structure Denotes (digits : List Char) (value : Int) : Prop where
  ascii : ∀ character ∈ digits, character.isDigit = true
  bounded : Nat.ofDigitChars 10 digits 0 ≤ 2147483647
  value_eq : value = Nat.ofDigitChars 10 digits 0

section Forms

variable {belongs : Char → Bool} {text run rest : List Char} {pair : List Char × List Char}

theorem beginsWithRun_iff :
    BeginsWithRun belongs text run rest ↔
      run = text.takeWhile belongs ∧ rest = text.dropWhile belongs ∧ run ≠ [] := by
  constructor
  · rintro ⟨rfl, nonempty, all, stopped⟩
    exact ⟨(takeWhile_append all stopped).symm, (dropWhile_append all stopped).symm, nonempty⟩
  · rintro ⟨rfl, rfl, nonempty⟩
    exact ⟨List.takeWhile_append_dropWhile.symm, nonempty, fun _ => List.mem_takeWhile_imp,
      forall_mem_head?_dropWhile belongs text⟩

theorem blank_of_mem_takeWhile (text : List Char) : ∀ character ∈ text.takeWhile (· = ' '), character = ' ' := by
  intro character member
  simpa using List.mem_takeWhile_imp member

theorem showsRun_iff (solid : belongs ' ' = false) :
    ShowsRun belongs text run rest ↔ BeginsWithRun belongs (skipSpaces text) run rest := by
  constructor
  · rintro ⟨gap, later, rfl, blank, begins⟩
    have first : ∀ character ∈ later.head?, decide (character = ' ') = false := by
      intro character head
      rw [begins.text_eq, List.head?_append_of_ne_nil _ begins.run_ne_nil] at head
      exact decide_eq_false (ne_of_holds (begins.all _ (List.mem_of_head? head)) solid)
    have skipped : skipSpaces (gap ++ later) = later :=
      dropWhile_append (fun character member => decide_eq_true (blank character member)) first
    rwa [skipped]
  · intro begins
    exact ⟨text.takeWhile (· = ' '), skipSpaces text, List.takeWhile_append_dropWhile.symm,
      blank_of_mem_takeWhile text, begins⟩

theorem ite_run_eq_some_iff {α : Type} (make : List Char → List Char → α) {value : α} :
    (if (text.takeWhile belongs).isEmpty then none
      else some (make (text.takeWhile belongs) (text.dropWhile belongs))) = some value ↔
        ∃ run rest, BeginsWithRun belongs text run rest ∧ make run rest = value := by
  simp only [beginsWithRun_iff]
  cases empty : (text.takeWhile belongs).isEmpty with
  | true =>
      have nil := List.isEmpty_iff.mp empty
      constructor
      · exact fun none => nomatch none
      · rintro ⟨_, _, ⟨run_eq, -, nonempty⟩, -⟩
        exact absurd (run_eq.trans nil) nonempty
  | false =>
      constructor
      · rintro ⟨⟩
        exact ⟨_, _, ⟨rfl, rfl, List.isEmpty_eq_false_iff.mp empty⟩, rfl⟩
      · rintro ⟨_, _, ⟨rfl, rfl, -⟩, rfl⟩
        rfl

theorem wordForm_eq_some_iff (solid : belongs ' ' = false) :
    wordForm belongs text = some run ↔ ShowsWord belongs text run := by
  simp only [ShowsWord, showsRun_iff solid]
  refine (ite_run_eq_some_iff fun run _ => run).trans ?_
  constructor
  · rintro ⟨_, rest, begins, rfl⟩
    exact ⟨rest, begins⟩
  · exact fun ⟨rest, begins⟩ => ⟨run, rest, begins, rfl⟩

theorem digits?_eq_some_iff :
    digits? text = some (run, rest) ↔ ShowsRun isDecimalDigit text run rest := by
  rw [showsRun_iff (by decide)]
  refine (ite_run_eq_some_iff Prod.mk).trans ?_
  constructor
  · rintro ⟨_, _, begins, same⟩
    cases same
    exact begins
  · exact fun begins => ⟨run, rest, begins, rfl⟩

theorem oneForm_eq_some_iff : oneForm text = some run ↔ ShowsWord isDecimalDigit text run := by
  rw [oneForm_eq_wordForm, wordForm_eq_some_iff (by decide)]

theorem slashForm_eq_some_iff : slashForm text = some pair ↔ ShowsPair text pair := by
  obtain ⟨first, second⟩ := pair
  rw [slashForm, Option.bind_eq_some_iff]
  constructor
  · rintro ⟨⟨run, rest⟩, shown, form⟩
    dsimp only at form
    split at form
    · next middle =>
      obtain ⟨other, last, begins, same⟩ := (ite_run_eq_some_iff fun other _ => (run, other)).mp form
      cases same
      exact ⟨middle, last, digits?_eq_some_iff.mp shown, begins⟩
    · cases form
  · rintro ⟨middle, rest, shown, begins⟩
    refine ⟨_, digits?_eq_some_iff.mpr shown, ?_⟩
    exact (ite_run_eq_some_iff fun other _ => (first, other)).mpr ⟨second, rest, begins, rfl⟩

theorem experienceForm_eq_some_iff : experienceForm text = some pair ↔ ShowsExperience text pair := by
  obtain ⟨first, second⟩ := pair
  simp only [experienceForm, Option.bind_eq_some_iff, Option.map_eq_some_iff, dropWord_eq_some,
    oneForm_eq_some_iff]
  constructor
  · rintro ⟨⟨run, rest⟩, shown, middle, rest_eq, other, ⟨end_, shown_other⟩, same⟩
    cases same
    refine ⟨rest.takeWhile (· = ' '), middle, end_, ?_, ?_, shown_other⟩
    · rw [← rest_eq, skipSpaces, List.takeWhile_append_dropWhile]
      exact digits?_eq_some_iff.mp shown
    · exact blank_of_mem_takeWhile rest
  · rintro ⟨gap, middle, rest, shown, blank, shown_other⟩
    refine ⟨_, digits?_eq_some_iff.mpr shown, middle, ?_, second, ⟨rest, shown_other⟩, rfl⟩
    exact dropWhile_append (fun character member => decide_eq_true (blank character member))
      (forall_mem_head?_cons (by decide : decide ('N' = ' ') = false) _)

theorem number?_eq_some_iff {value : Int} (nonempty : run ≠ []) :
    number? run = some value ↔ Denotes run value := by
  simp only [number?, Numeral.decimalUpTo?, Option.map_eq_some_iff, Option.filter_eq_some_iff,
    Numeral.value?_eq_some_iff, decide_eq_true_eq]
  constructor
  · rintro ⟨_, ⟨⟨-, ascii, rfl⟩, bounded⟩, rfl⟩
    exact ⟨ascii, bounded, rfl⟩
  · rintro ⟨ascii, bounded, rfl⟩
    exact ⟨_, ⟨⟨nonempty, ascii, rfl⟩, bounded⟩, rfl⟩

theorem ShowsWord.run_ne_nil (shows : ShowsWord belongs text run) : run ≠ [] :=
  shows.elim fun _ ⟨_, _, _, _, begins⟩ => begins.run_ne_nil

theorem ShowsPair.ne_nil (shows : ShowsPair text pair) : pair.1 ≠ [] ∧ pair.2 ≠ [] := by
  obtain ⟨middle, rest, shown, begins⟩ := shows
  exact ⟨ShowsWord.run_ne_nil ⟨_, shown⟩, begins.run_ne_nil⟩

theorem ShowsExperience.ne_nil (shows : ShowsExperience text pair) : pair.1 ≠ [] ∧ pair.2 ≠ [] := by
  obtain ⟨gap, middle, rest, shown, -, shown_other⟩ := shows
  exact ⟨ShowsWord.run_ne_nil ⟨_, shown⟩, ShowsWord.run_ne_nil ⟨_, shown_other⟩⟩

theorem one?_eq_some_iff {label : String} {value : Int} :
    one? label text = some value ↔
      ∃ digits, StandsFirst label.toList (ShowsWord isDecimalDigit) text digits ∧ Denotes digits value := by
  simp only [one?, Option.bind_eq_some_iff, readAfter_eq_some_iff fun _ _ => oneForm_eq_some_iff]
  refine exists_congr fun digits => and_congr_right ?_
  rintro ⟨_, _, _, shown, -⟩
  exact number?_eq_some_iff shown.run_ne_nil

theorem two?_eq_some_iff {label : List Char} {read : List Char → Option (List Char × List Char)}
    {shows : List Char → List Char × List Char → Prop}
    (reads : ∀ after pair, read after = some pair ↔ shows after pair)
    (ne_nil : ∀ after pair, shows after pair → pair.1 ≠ [] ∧ pair.2 ≠ []) {value : Int × Int} :
    two? (readAfter label read text) = some value ↔
      ∃ pair, StandsFirst label shows text pair ∧ Denotes pair.1 value.1 ∧ Denotes pair.2 value.2 := by
  obtain ⟨first, second⟩ := value
  simp only [two?, Option.bind_eq_some_iff, Option.map_eq_some_iff, readAfter_eq_some_iff reads]
  refine exists_congr fun pair => and_congr_right ?_
  rintro ⟨_, after, _, shown, -⟩
  obtain ⟨nonempty, nonempty_second⟩ := ne_nil after pair shown
  simp only [number?_eq_some_iff nonempty, number?_eq_some_iff nonempty_second]
  constructor
  · rintro ⟨_, denotes, _, denotes_second, same⟩
    cases same
    exact ⟨denotes, denotes_second⟩
  · rintro ⟨denotes, denotes_second⟩
    exact ⟨first, denotes, second, denotes_second, rfl⟩

end Forms

/-! ## The values of the fields -/

namespace Reading

/-- The fields with a single number, with their labels. -/
def numbers (reading : Reading) : List (String × Option Int) :=
  [("AC:", reading.armourClass), ("EV:", reading.evasion), ("SH:", reading.shielding),
    ("Str:", reading.strength), ("Int:", reading.intelligence), ("Dex:", reading.dexterity)]

/-- The fields with two numbers and a slash between them, with their labels. -/
def pairs (reading : Reading) : List (String × Option (Int × Int)) :=
  [("Health:", reading.health), ("Magic:", reading.magic)]

end Reading

/--
What is read from a text is what the patterns of the fields find in it. A field has the value behind the
first place of its label that has one of its form behind it, up to the end of the run. Numbers are taken
from there or not at all.
-/
theorem fields_match_leftmost (text : List Char) :
    Reading.of text = Reading.matching text ∧
      (∀ field ∈ (Reading.of text).numbers, ∀ value, field.2 = some value ↔
        ∃ digits, StandsFirst field.1.toList (ShowsWord isDecimalDigit) text digits ∧ Denotes digits value) ∧
      (∀ field ∈ (Reading.of text).pairs, ∀ value, field.2 = some value ↔
        ∃ pair, StandsFirst field.1.toList ShowsPair text pair ∧
          Denotes pair.1 value.1 ∧ Denotes pair.2 value.2) ∧
      (∀ value, (Reading.of text).experience = some value ↔
        ∃ pair, StandsFirst "XL:".toList ShowsExperience text pair ∧
          Denotes pair.1 value.1 ∧ Denotes pair.2 value.2) ∧
      (∀ time, (Reading.of text).gameTime = some time ↔
        ∃ word, StandsFirst "Time:".toList (ShowsWord isTimeCharacter) text word ∧
          Binary64.read? word = some time) ∧
      ∀ place, (Reading.of text).place = some place ↔
        StandsFirst "Place:".toList (ShowsWord isPlaceCharacter) text place.toList := by
  refine ⟨reading_eq_matching text, ?_, ?_, fun value => ?_, fun time => ?_, fun place => ?_⟩
  · intro field member value
    obtain ⟨label, -, rfl⟩ : ∃ label ∈ ["AC:", "EV:", "SH:", "Str:", "Int:", "Dex:"],
        (label, one? label text) = field := List.mem_map.mp member
    exact one?_eq_some_iff
  · intro field member value
    obtain ⟨label, -, rfl⟩ : ∃ label ∈ ["Health:", "Magic:"],
        (label, two? (readAfter label.toList slashForm text)) = field := List.mem_map.mp member
    exact two?_eq_some_iff (fun _ _ => slashForm_eq_some_iff) fun _ _ => ShowsPair.ne_nil
  · exact two?_eq_some_iff (fun _ _ => experienceForm_eq_some_iff) fun _ _ => ShowsExperience.ne_nil
  · rw [Reading.of, Option.bind_eq_some_iff]
    exact exists_congr fun word => and_congr_left' <|
      readAfter_eq_some_iff fun _ _ => wordForm_eq_some_iff (by decide)
  · rw [Reading.of, Option.map_eq_some_iff]
    have stands (word : List Char) : readAfter "Place:".toList (wordForm isPlaceCharacter) text = some word ↔
        StandsFirst "Place:".toList (ShowsWord isPlaceCharacter) text word :=
      readAfter_eq_some_iff fun _ _ => wordForm_eq_some_iff (by decide)
    constructor
    · rintro ⟨word, read, rfl⟩
      exact (congrArg (StandsFirst _ _ text) String.toList_ofList).mpr ((stands word).mp read)
    · exact fun shown => ⟨place.toList, (stands _).mpr shown, String.ofList_toList⟩

/--
Labels without a number are passed over, and the first number is taken with its leading zeros; a number that
cannot be read, here for its script or for its size, leaves the field without a value.
-/
theorem fields_match_leftmost_recurring :
    let text := "AC: AC:x AC:  007 AC: 9 EV: \u0663 EV: 3 Health: 3/ Health:4/5 SH: 2147483648 SH: 1".toList
    let reading := Reading.of text
    (("AC:", some 7) ∈ reading.numbers ∧ ("EV:", none) ∈ reading.numbers ∧ ("SH:", none) ∈ reading.numbers ∧
      ("Health:", some (4, 5)) ∈ reading.pairs) ∧
      (∃ digits, StandsFirst "AC:".toList (ShowsWord isDecimalDigit) text digits ∧ Denotes digits 7) ∧
      ∃ pair, StandsFirst "Health:".toList ShowsPair text pair ∧ Denotes pair.1 4 ∧ Denotes pair.2 5 := by
  intro text reading
  have members : ("AC:", some 7) ∈ reading.numbers ∧ ("EV:", none) ∈ reading.numbers ∧
      ("SH:", none) ∈ reading.numbers ∧ ("Health:", some (4, 5)) ∈ reading.pairs := by
    decide +kernel
  obtain ⟨-, numbers, pairs, -⟩ := fields_match_leftmost text
  exact ⟨members, (numbers ("AC:", some 7) members.1 7).mp rfl,
    (pairs ("Health:", some (4, 5)) members.2.2.2 (4, 5)).mp rfl⟩

end RoguePilot.StatusPanel
