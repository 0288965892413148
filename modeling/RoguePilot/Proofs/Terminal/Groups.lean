import RoguePilot.Proofs.Terminal.Parameters

/-!
# Groups of a rendition

The numbers of a rendition sequence fall into groups: a code that stands alone, or an introducer together
with what says which colour it introduces. Reading the numbers one by one, nothing is left open at the end
of a group, so one sequence with many groups does what many sequences with one group each do.
-/

namespace RoguePilot.Terminal

open Interpreter

namespace Rendition

/-! ## Number by number -/

/-- What the next number of a rendition sequence stands for. -/
inductive Expectation where
  /-- A code. -/
  | code
  /-- The way in which an introduced colour is given. -/
  | selector (place : Color → Restyle)
  /-- The palette index of an introduced colour. -/
  | index (place : Color → Restyle)
  /-- A component of a colour that cannot be shown, with so many to come after it. -/
  | component (more : Nat)

namespace Expectation

/-- Reads a number: what is expected after it, and what changes. -/
def read : Expectation → Nat → Expectation × List Restyle
  | .code, number =>
    match introduced? number with
    | some place => (.selector place, [])
    | none => (.code, (single? number).toList)
  | .selector place, number =>
    if number = 5 then (.index place, [])
    else if number = 2 then (.component 2, [])
    else (.code, [])
  | .index place, number => (.code, ((Hue.ofIndex? number).map fun hue => place (.hue hue)).toList)
  | .component 0, _ => (.code, [])
  | .component (more + 1), _ => (.component more, [])

/-- Reads numbers: what is expected after them, and what changes in order. -/
def readAll (expectation : Expectation) : List Nat → Expectation × List Restyle
  | [] => (expectation, [])
  | number :: numbers =>
    let first := expectation.read number
    let later := first.1.readAll numbers
    (later.1, first.2 ++ later.2)

theorem readAll_append (expectation : Expectation) (first second : List Nat) :
    expectation.readAll (first ++ second) =
      (((expectation.readAll first).1.readAll second).1,
        (expectation.readAll first).2 ++ ((expectation.readAll first).1.readAll second).2) := by
  induction first generalizing expectation with
  | nil => rfl
  | cons number first induction =>
      rw [List.cons_append, readAll, readAll, induction, List.append_assoc]

/-- The components of a colour are passed over. -/
theorem readAll_component (more : Nat) (numbers : List Nat) :
    ((component more).readAll numbers).2 = (code.readAll (numbers.drop (more + 1))).2 := by
  induction numbers generalizing more with
  | nil => rfl
  | cons number numbers induction =>
      cases more with
      | zero => rfl
      | succ more => exact induction more

theorem readAll_selector (place : Color → Restyle) (numbers : List Nat) :
    ((selector place).readAll numbers).2 =
      ((extended numbers).1.map place).toList ++ (code.readAll (extended numbers).2).2 := by
  fun_cases extended numbers with
  | case1 => rfl
  | case2 => rfl
  | case3 index rest =>
      rw [readAll, read, if_pos rfl, readAll, read, Option.map_map]
      rfl
  | case4 rest => exact readAll_component 2 rest
  | case5 selector rest not_last not_index not_mixed =>
      have not_five : selector ≠ 5 := by
        rintro rfl
        cases rest with
        | nil => exact not_last rfl rfl
        | cons index rest => exact not_index index rest rfl rfl
      rw [readAll, read, if_neg not_five, if_neg not_mixed]
      rfl

end Expectation

/-- Taking groups off the front of the numbers is reading them one by one. -/
theorem changes_eq_readAll (codes : List Nat) : changes codes = (Expectation.code.readAll codes).2 := by
  fun_induction changes codes with
  | case1 => rfl
  | case2 code codes place introduces induction =>
      rw [Expectation.readAll, Expectation.read, introduces, induction]
      exact (Expectation.readAll_selector place codes).symm
  | case3 code codes alone induction =>
      rw [Expectation.readAll, Expectation.read, alone, induction]

/-! ## Groups -/

/-- The numbers belong together, and no more belong to them. -/
inductive IsGroup : List Nat → Prop where
  /-- A code that stands alone. -/
  | single {code : Nat} (alone : code ≠ 38 ∧ code ≠ 48) : IsGroup [code]
  /-- A colour given by its palette index. -/
  | indexed {introducer : Nat} (introduces : introducer = 38 ∨ introducer = 48) (index : Nat) :
      IsGroup [introducer, 5, index]
  /-- A colour given by its components. -/
  | mixed {introducer : Nat} (introduces : introducer = 38 ∨ introducer = 48)
      (red green blue : Nat) : IsGroup [introducer, 2, red, green, blue]
  /-- A colour that is given in no known way. -/
  | other {introducer : Nat} (introduces : introducer = 38 ∨ introducer = 48) {selector : Nat}
      (unknown : selector ≠ 5 ∧ selector ≠ 2) : IsGroup [introducer, selector]

/-- The style change of a group, if it means one. -/
def groupChange? : List Nat → Option Restyle
  | [code] => single? code
  | [introducer, 5, index] =>
    (introduced? introducer).bind fun place => (Hue.ofIndex? index).map fun hue => place (.hue hue)
  | _ => none

/-- The code means something when it stands alone. -/
def isCode (code : Nat) : Bool :=
  code = 0 || code = 1 || code = 22 || code = 39 || code = 49 ||
    30 ≤ code && code ≤ 37 || 40 ≤ code && code ≤ 47 ||
    90 ≤ code && code ≤ 97 || 100 ≤ code && code ≤ 107

/-- The group means something: a known code, or a colour of the palette. -/
def isShown : List Nat → Bool
  | [code] => isCode code
  | [_, 5, index] => index < 16
  | _ => false

theorem introduced?_eq_none {code : Nat} (alone : code ≠ 38 ∧ code ≠ 48) : introduced? code = none := by
  unfold introduced?
  split
  · exact absurd rfl alone.1
  · exact absurd rfl alone.2
  · rfl

theorem exists_place {introducer : Nat} (introduces : introducer = 38 ∨ introducer = 48) :
    ∃ place, introduced? introducer = some place := by
  rcases introduces with rfl | rfl
  · exact ⟨.foreground, rfl⟩
  · exact ⟨.background, rfl⟩

/-- Nothing is left open at the end of a group. -/
theorem IsGroup.readAll_eq {group : List Nat} (complete : IsGroup group) :
    Expectation.code.readAll group = (.code, (groupChange? group).toList) := by
  cases complete with
  | single alone => simp [Expectation.readAll, Expectation.read, introduced?_eq_none alone, groupChange?]
  | indexed introduces index =>
      obtain ⟨place, place_eq⟩ := exists_place introduces
      simp [Expectation.readAll, Expectation.read, place_eq, groupChange?]
  | mixed introduces red green blue =>
      obtain ⟨place, place_eq⟩ := exists_place introduces
      simp [Expectation.readAll, Expectation.read, place_eq, groupChange?]
  | other introduces unknown =>
      obtain ⟨place, place_eq⟩ := exists_place introduces
      simp [Expectation.readAll, Expectation.read, place_eq, groupChange?, unknown]

theorem readAll_flatten {groups : List (List Nat)} (complete : ∀ group ∈ groups, IsGroup group) :
    Expectation.code.readAll groups.flatten = (.code, groups.filterMap groupChange?) := by
  induction groups with
  | nil => rfl
  | cons group groups induction =>
      obtain ⟨here, later⟩ := List.forall_mem_cons.mp complete
      rw [List.flatten_cons, Expectation.readAll_append, here.readAll_eq, induction later]
      cases change : groupChange? group with
      | none => rw [List.filterMap_cons_none change]; rfl
      | some restyle => rw [List.filterMap_cons_some change]; rfl

/-! ## What a group means -/

theorem isSome_ofIndex? (index : Nat) : (Hue.ofIndex? index).isSome = true ↔ index < 16 := by
  rw [Hue.ofIndex?, isSome_getElem?]
  exact Iff.rfl

theorem isSome_single? (code : Nat) : (single? code).isSome = true ↔ isCode code = true := by
  fun_cases single? code
  all_goals
    simp only [isCode, Option.isSome_map, Option.isSome_some, Option.isSome_none, isSome_ofIndex?,
      Bool.or_eq_true, Bool.and_eq_true, decide_eq_true_eq, true_iff, Bool.false_eq_true, false_iff]
    omega

/-- Only what can be shown changes the style. -/
theorem IsGroup.isSome_groupChange? {group : List Nat} (complete : IsGroup group) :
    (groupChange? group).isSome = true ↔ isShown group = true := by
  cases complete with
  | single alone => exact isSome_single? _
  | indexed introduces index =>
      obtain ⟨place, place_eq⟩ := exists_place introduces
      simpa [groupChange?, place_eq, isShown] using isSome_ofIndex? index
  | mixed introduces red green blue => simp [groupChange?, isShown]
  | other introduces unknown => simp [groupChange?, isShown]

/-! ## Great numbers -/

/-- The number as it is acted on. -/
def capped (number : Nat) : Nat :=
  min greatestParameter number

/-- What the greatest numbers do not mean, they do not mean when they are cut. -/
theorem meaning_capped {α : Type} {meaning : Nat → Option α}
    (unknown : ∀ number, greatestParameter ≤ number → meaning number = none) (number : Nat) :
    meaning (capped number) = meaning number := by
  rcases Nat.le_total number greatestParameter with small | great
  · rw [capped, Nat.min_eq_right small]
  · rw [capped, Nat.min_eq_left great, unknown number great, unknown _ (Nat.le_refl _)]

theorem capped_eq_iff {number other : Nat} (small : other < greatestParameter) :
    capped number = other ↔ number = other := by
  unfold capped
  omega

theorem single?_capped (code : Nat) : single? (capped code) = single? code := by
  refine meaning_capped (fun code great => ?_) code
  rw [← Option.not_isSome_iff_eq_none, isSome_single?]
  simp only [isCode, greatestParameter, Bool.or_eq_true, Bool.and_eq_true, decide_eq_true_eq] at great ⊢
  omega

theorem ofIndex?_capped (index : Nat) : Hue.ofIndex? (capped index) = Hue.ofIndex? index := by
  refine meaning_capped (fun index great => ?_) index
  rw [← Option.not_isSome_iff_eq_none, isSome_ofIndex?]
  unfold greatestParameter at great
  omega

theorem capped_introducer {introducer : Nat} (introduces : introducer = 38 ∨ introducer = 48) :
    capped introducer = introducer := by
  rcases introduces with rfl | rfl
  · rfl
  · rfl

section Capped

variable {group : List Nat} (complete : IsGroup group)
include complete

/-- A number that is cut does not become an introducer or a way to give a colour. -/
theorem IsGroup.map_capped : IsGroup (group.map capped) := by
  have differs {number other : Nat} (small : other < greatestParameter) (ne : number ≠ other) :
      capped number ≠ other := mt (capped_eq_iff small).mp ne
  cases complete with
  | single alone => exact .single ⟨differs (by decide) alone.1, differs (by decide) alone.2⟩
  | indexed introduces index =>
      change IsGroup [capped _, 5, capped index]
      rw [capped_introducer introduces]
      exact .indexed introduces _
  | mixed introduces red green blue =>
      change IsGroup [capped _, 2, capped red, capped green, capped blue]
      rw [capped_introducer introduces]
      exact .mixed introduces _ _ _
  | other introduces unknown =>
      change IsGroup [capped _, capped _]
      rw [capped_introducer introduces]
      exact .other introduces ⟨differs (by decide) unknown.1, differs (by decide) unknown.2⟩

theorem IsGroup.groupChange?_capped : groupChange? (group.map capped) = groupChange? group := by
  cases complete with
  | single alone => exact single?_capped _
  | indexed introduces index =>
      change groupChange? [capped _, 5, capped index] = _
      rw [capped_introducer introduces]
      simp only [groupChange?, ofIndex?_capped]
  | mixed introduces red green blue => simp [groupChange?]
  | other introduces unknown => simp [groupChange?]

end Capped

/-! ## Groups as they are written -/

/-- A number as it is written: at least one digit, zeros in front included. -/
structure Figures where
  /-- The digits. -/
  digits : List Char
  /-- There is at least one. -/
  digits_ne_nil : digits ≠ []
  /-- Nothing else is among them. -/
  isDigit : ∀ character ∈ digits, character.isDigit = true

/-- The number that is written. -/
def Figures.value (figures : Figures) : Nat :=
  Nat.ofDigitChars 10 figures.digits 0

/-- The numeral of a number. -/
def Figures.decimal (number : Nat) : Figures :=
  ⟨Numeral.decimal number, Numeral.decimal_ne_nil number, fun _ => Numeral.isDigit_of_mem_decimal⟩

@[simp] theorem Figures.value_decimal (number : Nat) : (decimal number).value = number :=
  Numeral.ofDigitChars_decimal number

/-- The numbers that are written. -/
def values (numbers : List Figures) : List Nat :=
  numbers.map Figures.value

/-- The sequence with the numbers. -/
def sequence (numbers : List Figures) : List Char :=
  escapeCharacter :: '[' :: (listed (numbers.map Figures.digits) ++ ['m'])

theorem number?_figures (figures : Figures) : number? figures.digits = some (capped figures.value) := by
  rw [number?, Numeral.value?_digits figures.digits_ne_nil figures.isDigit]
  rfl

theorem numbersOfPieces_figures (numbers : List Figures) :
    numbersOfPieces (numbers.map Figures.digits) = (values numbers).map capped := by
  induction numbers with
  | nil => rfl
  | cons number numbers induction =>
      by_cases more : numbers = []
      · rw [more, List.map_singleton, numbersOfPieces, number?_figures]
        rfl
      · have pieces_ne : numbers.map Figures.digits ≠ [] := mt List.map_eq_nil_iff.mp more
        rw [List.map_cons, numbersOfPieces_cons pieces_ne, number?_figures, induction]
        rfl

theorem feedAll_sequence {numbers : List Figures} (nonempty : numbers ≠ []) :
    feedAll .ground (sequence numbers) = (.ground, commands ((values numbers).map capped)) := by
  have digits : ∀ piece ∈ numbers.map Figures.digits, ∀ character ∈ piece,
      character.isDigit = true := by
    intro piece member
    obtain ⟨number, -, rfl⟩ := List.mem_map.mp member
    exact number.isDigit
  have plain := plain_of_mem_listed digits
  have ends : isFinal 'm' = true := by decide
  rw [sequence, feedAll_standard (isNumeric_of_plain plain) (head?_ne_colon_of_plain plain) ends,
    numbersOf_listed digits (mt List.map_eq_nil_iff.mp nonempty), numbersOfPieces_figures]
  rfl

/-! ## What groups do together -/

theorem changes_groups {groups : List (List Figures)}
    (complete : ∀ group ∈ groups, IsGroup (values group)) :
    changes ((values groups.flatten).map capped) =
      groups.filterMap fun group => groupChange? (values group) := by
  have cut : ∀ group ∈ groups.map fun group => (values group).map capped, IsGroup group := by
    intro group member
    obtain ⟨written, written_mem, rfl⟩ := List.mem_map.mp member
    exact (complete written written_mem).map_capped
  have parted : (values groups.flatten).map capped =
      (groups.map fun group => (values group).map capped).flatten := by
    simp only [values, List.map_flatten, List.map_map, Function.comp_def]
  rw [parted, changes_eq_readAll, readAll_flatten cut, List.filterMap_map]
  exact List.filterMap_congr fun group member => (complete group member).groupChange?_capped

theorem IsGroup.ne_nil {group : List Figures} (complete : IsGroup (values group)) : group ≠ [] := by
  rintro rfl
  cases complete

end Rendition

open Rendition

/-- The terminal after style changes. -/
def restyled (terminal : Terminal) (changes : List Restyle) : Terminal :=
  { terminal with style := changes.foldl Restyle.apply terminal.style }

theorem restyled_append (terminal : Terminal) (first second : List Restyle) :
    terminal.restyled (first ++ second) = (terminal.restyled first).restyled second := by
  simp [restyled]

theorem applyAll_restyles (terminal : Terminal) (changes : List Restyle) :
    terminal.applyAll (changes.map .restyle) = terminal.restyled changes := by
  induction changes generalizing terminal with
  | nil => rfl
  | cons change changes induction =>
      rw [List.map_cons, applyAll_cons, induction]
      rfl

theorem applyAll_commands (terminal : Terminal) {codes : List Nat} (nonempty : codes ≠ []) :
    terminal.applyAll (commands codes) = terminal.restyled (changes codes) := by
  rw [commands, List.isEmpty_eq_false_iff.mpr nonempty, if_neg Bool.false_ne_true, applyAll_restyles]

namespace Console

variable {console : Console} {groups : List (List Figures)}

theorem display_groups (ground : console.interpreter = .ground) (nonempty : groups ≠ [])
    (complete : ∀ group ∈ groups, IsGroup (values group)) :
    console.display (sequence groups.flatten) =
      ⟨.ground, console.terminal.restyled
        (groups.filterMap fun group => groupChange? (values group))⟩ := by
  obtain ⟨group, member⟩ := List.exists_mem_of_ne_nil groups nonempty
  have flatten_ne : groups.flatten ≠ [] := fun empty =>
    (complete group member).ne_nil (List.flatten_eq_nil_iff.mp empty group member)
  have codes_ne : (values groups.flatten).map capped ≠ [] := by simpa [values] using flatten_ne
  rw [display_of_ground ground (feedAll_sequence flatten_ne), applyAll_commands _ codes_ne,
    changes_groups complete]

theorem display_sequences (ground : console.interpreter = .ground)
    (complete : ∀ group ∈ groups, IsGroup (values group)) :
    console.display (groups.flatMap sequence) =
      ⟨.ground, console.terminal.restyled
        (groups.filterMap fun group => groupChange? (values group))⟩ := by
  induction groups generalizing console with
  | nil =>
      rw [← ground]
      rfl
  | cons group groups induction =>
      obtain ⟨here, later⟩ := List.forall_mem_cons.mp complete
      have first := display_groups ground (List.cons_ne_nil group [])
        (List.forall_mem_singleton.mpr here)
      rw [List.flatten_singleton] at first
      rw [List.flatMap_cons, display_append, first, induction rfl later, ← restyled_append,
        ← List.filterMap_append, List.singleton_append]

/--
One rendition sequence with complete groups does what the sequences with one group each do in order:
every group that can be shown changes the style, and no other group changes anything.
-/
theorem groups_apply_in_order (idle : console.interpreter.isIdle = true) (nonempty : groups ≠ [])
    (complete : ∀ group ∈ groups, IsGroup (values group)) :
    console.display (sequence groups.flatten) = console.display (groups.flatMap sequence) ∧
      console.display (sequence groups.flatten) =
        console.display ((groups.filter fun group => isShown (values group)).flatMap sequence) ∧
      console.display (sequence groups.flatten) =
        ⟨.ground, { console.terminal with
          style := (groups.filterMap fun group => groupChange? (values group)).foldl Restyle.apply
            console.terminal.style }⟩ := by
  have ground := isIdle_iff.mp idle
  have displayed := display_groups ground nonempty complete
  refine ⟨?_, ?_, displayed⟩
  · rw [displayed, display_sequences ground complete]
  · have shown : ∀ group ∈ groups.filter fun group => isShown (values group),
        IsGroup (values group) := fun group member => complete group (List.mem_filter.mp member).1
    rw [displayed, display_sequences ground shown, List.filterMap_filter]
    congr 2
    refine List.filterMap_congr fun group member => ?_
    have shows := (complete group member).isSome_groupChange?
    split
    · rfl
    · next hidden => exact Option.not_isSome_iff_eq_none.mp (mt shows.mp hidden)

/-- Groups whose later numbers would mean something as codes: only the red background is shown. -/
def collidingGroups : List (List Figures) :=
  [[.decimal 38, .decimal 2, .decimal 1, .decimal 31, .decimal 48], [.decimal 48, .decimal 5, .decimal 70000],
    [.decimal 48, .decimal 5, .decimal 1], [.decimal 38, .decimal 7]]

theorem groups_apply_in_order_colliding :
    let console := Console.start ⟨2, 1⟩
    (∀ group ∈ collidingGroups, IsGroup (values group)) ∧
      sequence collidingGroups.flatten = "\x1b[38;2;1;31;48;48;5;70000;48;5;1;38;7m".toList ∧
      console.display (sequence collidingGroups.flatten) =
        console.display (collidingGroups.flatMap sequence) ∧
      console.display (sequence collidingGroups.flatten) =
        ⟨.ground, { console.terminal with style := { background := .hue .red } }⟩ := by
  intro console
  have complete : ∀ group ∈ collidingGroups, IsGroup (values group) := by
    simp only [collidingGroups, values, List.forall_mem_cons, List.map_cons, List.map_nil,
      Figures.value_decimal]
    exact ⟨.mixed (.inl rfl) _ _ _, .indexed (.inr rfl) _, .indexed (.inr rfl) _,
      .other (.inl rfl) ⟨by decide, by decide⟩, List.forall_mem_nil _⟩
  have shown : (collidingGroups.filterMap fun group => groupChange? (values group)) =
      [.background (.hue .red)] := by decide
  have nonempty : collidingGroups ≠ [] := List.cons_ne_nil _ _
  have idle : console.interpreter.isIdle = true := rfl
  have applied := groups_apply_in_order idle nonempty complete
  rw [shown] at applied
  exact ⟨complete, by decide, applied.1, applied.2.2⟩

end Console

end RoguePilot.Terminal
