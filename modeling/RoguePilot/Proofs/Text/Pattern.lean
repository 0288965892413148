import RoguePilot.Proofs.Text.Search

/-!
# Patterns

A pattern says what a piece of text looks like: fixed words, single characters and runs of characters of one
kind, one after the other, with parts that are kept. Whether characters match it is a relation that allows
every way to divide them among the parts. A matcher tries the ways one by one instead: every run is taken as
long as possible first, and one character is given back whenever the rest finds no way on. A search takes
the leftmost place with a way to match, and the first way there.
-/

namespace RoguePilot.Text

/-- What a piece of text looks like. -/
inductive Pattern where
  /-- A fixed word. -/
  | word (letters : List Char)
  /-- A character of one kind. -/
  | one (belongs : Char → Bool)
  /-- A run of characters of one kind, which may be empty. -/
  | many (belongs : Char → Bool)
  /-- One pattern after the other. -/
  | both (first second : Pattern)
  /-- A part that is kept. -/
  | kept (part : Pattern)

namespace Pattern

/-- A run of characters of one kind that is not empty. -/
def several (belongs : Char → Bool) : Pattern :=
  .both (.one belongs) (.many belongs)

/-- Patterns one after the other. -/
def inTurn : List Pattern → Pattern
  | [] => .word []
  | [part] => part
  | part :: next :: parts => .both part (inTurn (next :: parts))

/-! ## What matches -/

/-- The characters match the pattern in some way, and these are the kept parts. -/
inductive Matches : Pattern → List Char → List (List Char) → Prop where
  | word (letters : List Char) : Matches (.word letters) letters []
  | one {belongs : Char → Bool} {character : Char} (here : belongs character = true) :
      Matches (.one belongs) [character] []
  | many {belongs : Char → Bool} {run : List Char} (all : ∀ character ∈ run, belongs character = true) :
      Matches (.many belongs) run []
  | both {first second : Pattern} {left right : List Char} {keptLeft keptRight : List (List Char)}
      (before : Matches first left keptLeft) (after : Matches second right keptRight) :
      Matches (.both first second) (left ++ right) (keptLeft ++ keptRight)
  | kept {part : Pattern} {inside : List Char} {keptInside : List (List Char)}
      (within : Matches part inside keptInside) : Matches (.kept part) inside (inside :: keptInside)

/-! ## Trying the ways to match -/

/-- A way to match a pattern at the start of a text. -/
structure Way where
  /-- The characters that match. -/
  matched : List Char
  /-- The parts that are kept. -/
  kept : List (List Char)
  /-- What follows them. -/
  rest : List Char
deriving DecidableEq

namespace Way

/-- One way, and another one for what follows it. -/
def andThen (first second : Way) : Way :=
  ⟨first.matched ++ second.matched, first.kept ++ second.kept, second.rest⟩

/-- The same way with its characters kept. -/
def keep (way : Way) : Way :=
  { way with kept := way.matched :: way.kept }

end Way

/-- The runs of characters of one kind at the start of the text, the longest one first. -/
def runs (belongs : Char → Bool) : List Char → List Way
  | [] => [⟨[], [], []⟩]
  | character :: rest =>
    if belongs character then
      (runs belongs rest).map (Way.andThen ⟨[character], [], rest⟩) ++ [⟨[], [], character :: rest⟩]
    else [⟨[], [], character :: rest⟩]

/-- The ways to match a pattern at the start of the text, in the order in which they are tried. -/
def ways : Pattern → List Char → List Way
  | .word letters, text => (dropWord letters text).toList.map fun rest => ⟨letters, [], rest⟩
  | .one _, [] => []
  | .one belongs, character :: rest => if belongs character then [⟨[character], [], rest⟩] else []
  | .many belongs, text => runs belongs text
  | .both first second, text => (ways first text).flatMap fun before => (ways second before.rest).map before.andThen
  | .kept part, text => (ways part text).map Way.keep

/-- A way to match a pattern somewhere in a text. -/
structure Found extends Way where
  /-- The text before it. -/
  before : List Char
deriving DecidableEq

/-- The leftmost match of a pattern in the text, by the first way that is tried there. -/
def search (pattern : Pattern) : List Char → Option Found
  | [] => (ways pattern []).head?.map fun way => ⟨way, []⟩
  | character :: rest =>
    match (ways pattern (character :: rest)).head? with
    | some way => some ⟨way, []⟩
    | none => (search pattern rest).map fun found => { found with before := character :: found.before }

/-! ## Every way is tried -/

variable {pattern first second : Pattern} {belongs : Char → Bool} {text : List Char} {way : Way}

theorem mem_runs_iff :
    way ∈ runs belongs text ↔
      text = way.matched ++ way.rest ∧ way.kept = [] ∧ ∀ character ∈ way.matched, belongs character = true := by
  induction text generalizing way with
  | nil =>
      obtain ⟨matched, kept, rest⟩ := way
      simp only [runs, List.mem_singleton, Way.mk.injEq, List.nil_eq, List.append_eq_nil_iff]
      constructor
      · rintro ⟨rfl, rfl, rfl⟩
        exact ⟨⟨rfl, rfl⟩, rfl, List.forall_mem_nil _⟩
      · rintro ⟨⟨rfl, rfl⟩, rfl, -⟩
        exact ⟨rfl, rfl, rfl⟩
  | cons character text induction =>
      obtain ⟨matched, kept, rest⟩ := way
      rw [runs]
      split
      · next here =>
        simp only [List.mem_append, List.mem_map, List.mem_singleton]
        constructor
        · rintro (⟨later, member, same⟩ | stop)
          · cases same
            obtain ⟨text_eq, kept_eq, all⟩ := induction.mp member
            exact ⟨congrArg (character :: ·) text_eq, kept_eq, List.forall_mem_cons.mpr ⟨here, all⟩⟩
          · cases stop
            exact ⟨rfl, rfl, List.forall_mem_nil _⟩
        · rintro ⟨text_eq, rfl, all⟩
          cases matched with
          | nil => exact .inr (congrArg (Way.mk [] []) text_eq.symm)
          | cons first matched =>
              obtain ⟨rfl, rfl⟩ := List.cons.inj text_eq
              have later := (List.forall_mem_cons.mp all).2
              exact .inl ⟨⟨matched, [], rest⟩, induction.mpr ⟨rfl, rfl, later⟩, rfl⟩
      · next elsewhere =>
        rw [List.mem_singleton]
        constructor
        · rintro ⟨⟩
          exact ⟨rfl, rfl, List.forall_mem_nil _⟩
        · rintro ⟨text_eq, rfl, all⟩
          cases matched with
          | nil => exact congrArg (Way.mk [] []) text_eq.symm
          | cons first matched =>
              obtain ⟨rfl, rfl⟩ := List.cons.inj text_eq
              exact absurd (List.forall_mem_cons.mp all).1 elsewhere

theorem matches_word_iff {letters matched : List Char} {kept : List (List Char)} :
    Matches (.word letters) matched kept ↔ matched = letters ∧ kept = [] := by
  constructor
  · rintro ⟨⟩
    exact ⟨rfl, rfl⟩
  · rintro ⟨rfl, rfl⟩
    exact .word _

theorem matches_one_iff {matched : List Char} {kept : List (List Char)} :
    Matches (.one belongs) matched kept ↔
      kept = [] ∧ ∃ character, matched = [character] ∧ belongs character = true := by
  constructor
  · rintro ⟨⟩
    exact ⟨rfl, _, rfl, ‹_›⟩
  · rintro ⟨rfl, character, rfl, here⟩
    exact .one here

theorem matches_many_iff {matched : List Char} {kept : List (List Char)} :
    Matches (.many belongs) matched kept ↔ kept = [] ∧ ∀ character ∈ matched, belongs character = true := by
  constructor
  · rintro ⟨⟩
    exact ⟨rfl, ‹_›⟩
  · rintro ⟨rfl, all⟩
    exact .many all

theorem matches_both_iff {matched : List Char} {kept : List (List Char)} :
    Matches (.both first second) matched kept ↔
      ∃ left right keptLeft keptRight, Matches first left keptLeft ∧ Matches second right keptRight ∧
        matched = left ++ right ∧ kept = keptLeft ++ keptRight := by
  constructor
  · rintro ⟨⟩
    exact ⟨_, _, _, _, ‹_›, ‹_›, rfl, rfl⟩
  · rintro ⟨_, _, _, _, before, after, rfl, rfl⟩
    exact .both before after

theorem matches_kept_iff {matched : List Char} {kept : List (List Char)} :
    Matches (.kept pattern) matched kept ↔
      ∃ keptInside, Matches pattern matched keptInside ∧ kept = matched :: keptInside := by
  constructor
  · rintro ⟨⟩
    exact ⟨_, ‹_›, rfl⟩
  · rintro ⟨_, within, rfl⟩
    exact .kept within

theorem exists_matches_several_iff {matched : List Char} :
    (∃ kept, Matches (several belongs) matched kept) ↔
      matched ≠ [] ∧ ∀ character ∈ matched, belongs character = true := by
  constructor
  · rintro ⟨kept, found⟩
    obtain ⟨_, run, _, _, here, later, rfl, -⟩ := matches_both_iff.mp found
    obtain ⟨-, character, rfl, first⟩ := matches_one_iff.mp here
    exact ⟨List.cons_ne_nil _ _, List.forall_mem_cons.mpr ⟨first, (matches_many_iff.mp later).2⟩⟩
  · rintro ⟨nonempty, all⟩
    obtain ⟨character, run, rfl⟩ := List.exists_cons_of_ne_nil nonempty
    obtain ⟨here, later⟩ := List.forall_mem_cons.mp all
    exact ⟨_, .both (.one here) (.many later)⟩

/-- The ways that are tried are the ways in which the start of the text matches. -/
theorem mem_ways_iff :
    way ∈ ways pattern text ↔ text = way.matched ++ way.rest ∧ Matches pattern way.matched way.kept := by
  induction pattern generalizing text way with
  | word letters =>
      obtain ⟨matched, kept, rest⟩ := way
      simp only [ways, List.mem_map, Option.mem_toList, dropWord_eq_some, Way.mk.injEq,
        matches_word_iff]
      constructor
      · rintro ⟨_, rfl, rfl, rfl, rfl⟩
        exact ⟨rfl, rfl, rfl⟩
      · rintro ⟨rfl, rfl, rfl⟩
        exact ⟨rest, rfl, rfl, rfl, rfl⟩
  | one belongs =>
      obtain ⟨matched, kept, rest⟩ := way
      rw [matches_one_iff]
      cases text with
      | nil =>
          constructor
          · exact fun none => nomatch none
          · rintro ⟨text_eq, -, character, rfl, -⟩
            exact nomatch text_eq
      | cons character text =>
          rw [ways]
          split
          · next here =>
            rw [List.mem_singleton]
            constructor
            · rintro ⟨⟩
              exact ⟨rfl, rfl, character, rfl, here⟩
            · rintro ⟨text_eq, rfl, same, rfl, -⟩
              obtain ⟨rfl, rfl⟩ := List.cons.inj text_eq
              rfl
          · next elsewhere =>
            constructor
            · exact fun none => nomatch none
            · rintro ⟨text_eq, -, same, rfl, there⟩
              obtain ⟨rfl, -⟩ := List.cons.inj text_eq
              exact absurd there elsewhere
  | many belongs => rw [ways, mem_runs_iff, matches_many_iff]
  | both first second induction_first induction_second =>
      simp only [ways, List.mem_flatMap, List.mem_map, matches_both_iff]
      constructor
      · rintro ⟨before, member_before, after, member_after, rfl⟩
        obtain ⟨text_eq, left⟩ := induction_first.mp member_before
        obtain ⟨rest_eq, right⟩ := induction_second.mp member_after
        refine ⟨?_, _, _, _, _, left, right, rfl, rfl⟩
        rw [text_eq, rest_eq]
        exact (List.append_assoc _ _ _).symm
      · obtain ⟨matched, kept, rest⟩ := way
        rintro ⟨text_eq, left, right, keptLeft, keptRight, before, after, rfl, rfl⟩
        rw [List.append_assoc] at text_eq
        exact ⟨⟨left, keptLeft, right ++ rest⟩, induction_first.mpr ⟨text_eq, before⟩,
          ⟨right, keptRight, rest⟩, induction_second.mpr ⟨rfl, after⟩, rfl⟩
  | kept part induction =>
      simp only [ways, List.mem_map, matches_kept_iff]
      constructor
      · rintro ⟨inside, member, rfl⟩
        obtain ⟨text_eq, within⟩ := induction.mp member
        exact ⟨text_eq, _, within, rfl⟩
      · obtain ⟨matched, kept, rest⟩ := way
        rintro ⟨text_eq, keptInside, within, kept_eq⟩
        obtain rfl : kept = matched :: keptInside := kept_eq
        exact ⟨⟨matched, keptInside, rest⟩, induction.mpr ⟨text_eq, within⟩, rfl⟩

/-! ## Searching -/

theorem search_eq_none_iff :
    search pattern text = none ↔ ∀ before later, text = before ++ later → ways pattern later = [] := by
  induction text with
  | nil =>
      simp only [search, Option.map_eq_none_iff, List.head?_eq_none_iff, List.nil_eq, List.append_eq_nil_iff]
      constructor
      · rintro none _ _ ⟨rfl, rfl⟩
        exact none
      · exact fun none => none [] [] ⟨rfl, rfl⟩
  | cons character text induction =>
      rw [search]
      cases first : (ways pattern (character :: text)).head? with
      | some here =>
          constructor
          · exact fun absent => nomatch absent
          · intro none
            rw [none [] _ rfl] at first
            exact nomatch first
      | none =>
          have none : ways pattern (character :: text) = [] := List.head?_eq_none_iff.mp first
          simp only [Option.map_eq_none_iff, induction]
          constructor
          · intro absent before later split
            cases before with
            | nil =>
                obtain rfl : character :: text = later := split
                exact none
            | cons head before => exact absent before later (List.cons.inj split).2
          · exact fun absent before later split =>
              absent (character :: before) later (congrArg (character :: ·) split)

/-- A search finds something where the text contains characters that match. -/
theorem search_isSome_iff :
    (search pattern text).isSome = true ↔
      ∃ before matched kept rest, text = before ++ (matched ++ rest) ∧ Matches pattern matched kept := by
  rw [Option.isSome_iff_ne_none, ne_eq, search_eq_none_iff]
  constructor
  · intro some
    refine Classical.byContradiction fun nothing => ?_
    refine some fun before later split => List.eq_nil_iff_forall_not_mem.mpr fun way member => ?_
    obtain ⟨rfl, here⟩ := mem_ways_iff.mp member
    exact nothing ⟨before, way.matched, way.kept, way.rest, split, here⟩
  · rintro ⟨before, matched, kept, rest, split, here⟩ none
    have member : ⟨matched, kept, rest⟩ ∈ ways pattern (matched ++ rest) := mem_ways_iff.mpr ⟨rfl, here⟩
    rw [none before _ split] at member
    exact nomatch member

/-! ## Runs that cannot be shortened -/

/-- The pattern does not match where a character of the kind stands. -/
def Refuses (pattern : Pattern) (belongs : Char → Bool) : Prop :=
  ∀ character rest, belongs character = true → ways pattern (character :: rest) = []

/-- Every way stops before a character of the kind. -/
def StopShort (belongs : Char → Bool) (shorter : List Way) : Prop :=
  ∀ way ∈ shorter, ∃ character rest, way.rest = character :: rest ∧ belongs character = true

theorem flatMap_of_stopShort {shorter : List Way} (stopShort : StopShort belongs shorter)
    (refuses : second.Refuses belongs) :
    (shorter.flatMap fun before => (ways second before.rest).map before.andThen) = [] := by
  rw [List.flatMap_eq_nil_iff]
  intro way member
  obtain ⟨character, rest, rest_eq, here⟩ := stopShort way member
  rw [rest_eq, refuses character rest here, List.map_nil]

variable (belongs text) in
/-- The longest run comes first, and the others stop within it. -/
theorem exists_runs_eq :
    ∃ shorter, runs belongs text = ⟨text.takeWhile belongs, [], text.dropWhile belongs⟩ :: shorter ∧
      StopShort belongs shorter := by
  induction text with
  | nil => exact ⟨[], rfl, List.forall_mem_nil _⟩
  | cons character text induction =>
      obtain ⟨shorter, runs_eq, stopShort⟩ := induction
      by_cases here : belongs character = true
      · refine ⟨shorter.map (Way.andThen ⟨[character], [], text⟩) ++ [⟨[], [], character :: text⟩], ?_, ?_⟩
        · rw [runs, if_pos here, runs_eq, List.takeWhile_cons_of_pos here, List.dropWhile_cons_of_pos here]
          rfl
        · refine List.forall_mem_append.mpr ⟨List.forall_mem_map.mpr stopShort, List.forall_mem_singleton.mpr ?_⟩
          exact ⟨character, text, rfl, here⟩
      · refine ⟨[], ?_, List.forall_mem_nil _⟩
        rw [runs, if_neg here, List.takeWhile_cons_of_neg here, List.dropWhile_cons_of_neg here]

variable (belongs text) in
/-- So it is for runs that are not empty, if there are any. -/
theorem exists_ways_several_eq :
    ∃ shorter, StopShort belongs shorter ∧
      ways (several belongs) text =
        if (text.takeWhile belongs).isEmpty then []
        else ⟨text.takeWhile belongs, [], text.dropWhile belongs⟩ :: shorter := by
  cases text with
  | nil => exact ⟨[], List.forall_mem_nil _, rfl⟩
  | cons character text =>
      obtain ⟨shorter, runs_eq, stopShort⟩ := exists_runs_eq belongs text
      by_cases here : belongs character = true
      · refine ⟨shorter.map (Way.andThen ⟨[character], [], text⟩), List.forall_mem_map.mpr stopShort, ?_⟩
        rw [several, ways, ways, if_pos here, List.flatMap_singleton, ways, runs_eq,
          List.takeWhile_cons_of_pos here, List.dropWhile_cons_of_pos here]
        rfl
      · refine ⟨[], List.forall_mem_nil _, ?_⟩
        rw [several, ways, ways, if_neg here, List.takeWhile_cons_of_neg here]
        rfl

/-! ## What is kept -/

/-- What the first way at the start of the text keeps. -/
def keptAt (pattern : Pattern) (text : List Char) : Option (List (List Char)) :=
  (ways pattern text).head?.map fun way => way.kept

/-- What a search for the pattern keeps. -/
def keptBy (pattern : Pattern) (text : List Char) : Option (List (List Char)) :=
  (search pattern text).map fun found => found.kept

theorem keptAt_word_both {letters : List Char} :
    keptAt (.both (.word letters) second) text = (dropWord letters text).bind second.keptAt := by
  rw [keptAt, ways, ways]
  cases dropWord letters text with
  | none => rfl
  | some rest =>
      simp only [Option.toList_some, List.map_cons, List.map_nil, List.flatMap_singleton, List.head?_map,
        Option.map_map, Option.bind_some, keptAt]
      rfl

/-- Nothing is given back to a pattern that refuses it. -/
theorem keptAt_many_both (refuses : second.Refuses belongs) :
    keptAt (.both (.many belongs) second) text = keptAt second (text.dropWhile belongs) := by
  obtain ⟨shorter, runs_eq, stopShort⟩ := exists_runs_eq belongs text
  rw [keptAt, ways, ways, runs_eq, List.flatMap_cons, flatMap_of_stopShort stopShort refuses, List.append_nil,
    List.head?_map, Option.map_map]
  rfl

/-- Nothing is given back either if the rest matches at once. -/
theorem keptAt_many_both_of_some {kept : List (List Char)}
    (found : keptAt second (text.dropWhile belongs) = some kept) :
    keptAt (.both (.many belongs) second) text = some kept := by
  obtain ⟨shorter, runs_eq, -⟩ := exists_runs_eq belongs text
  obtain ⟨way, first, rfl⟩ := Option.map_eq_some_iff.mp found
  rw [keptAt, ways, ways, runs_eq, List.flatMap_cons, List.head?_append, List.head?_map, first]
  rfl

theorem keptAt_kept_several_both (refuses : second.Refuses belongs) :
    keptAt (.both (.kept (several belongs)) second) text =
      if (text.takeWhile belongs).isEmpty then none
      else (keptAt second (text.dropWhile belongs)).map (text.takeWhile belongs :: ·) := by
  obtain ⟨shorter, stopShort, ways_eq⟩ := exists_ways_several_eq belongs text
  rw [keptAt, ways, ways, ways_eq]
  split
  · rfl
  · have still : StopShort belongs (shorter.map Way.keep) := List.forall_mem_map.mpr stopShort
    rw [List.map_cons, List.flatMap_cons, flatMap_of_stopShort still refuses, List.append_nil,
      List.head?_map, Option.map_map, keptAt, Option.map_map]
    rfl

theorem keptAt_kept_several :
    keptAt (.kept (several belongs)) text =
      if (text.takeWhile belongs).isEmpty then none else some [text.takeWhile belongs] := by
  obtain ⟨shorter, -, ways_eq⟩ := exists_ways_several_eq belongs text
  rw [keptAt, ways, ways_eq]
  split <;> rfl

theorem keptAt_kept_many : keptAt (.kept (.many belongs)) text = some [text.takeWhile belongs] := by
  obtain ⟨shorter, runs_eq, -⟩ := exists_runs_eq belongs text
  rw [keptAt, ways, ways, runs_eq]
  rfl

theorem keptBy_nil : keptBy pattern [] = keptAt pattern [] := by
  rw [keptBy, search, Option.map_map]
  rfl

theorem keptBy_cons (character : Char) (rest : List Char) :
    keptBy pattern (character :: rest) = (keptAt pattern (character :: rest)).or (keptBy pattern rest) := by
  rw [keptBy, search, keptAt]
  cases (ways pattern (character :: rest)).head? with
  | some way => rfl
  | none =>
      rw [Option.map_none, Option.none_or, Option.map_map]
      rfl

/-! ## Patterns that refuse -/

theorem refuses_several {other : Char → Bool}
    (apart : ∀ character, other character = true → belongs character = false) :
    (several belongs).Refuses other := by
  intro character rest here
  rw [several, ways, ways, if_neg (Bool.eq_false_iff.mp (apart character here)), List.flatMap_nil]

theorem refuses_word {initial : Char} {letters : List Char} (apart : belongs initial = false) :
    (word (initial :: letters)).Refuses belongs := by
  intro character rest here
  have differs : initial ≠ character := (ne_of_holds here apart).symm
  rw [ways, dropWord, if_neg differs]
  rfl

theorem Refuses.kept (refuses : pattern.Refuses belongs) : (kept pattern).Refuses belongs := by
  intro character rest here
  rw [ways, refuses character rest here, List.map_nil]

theorem Refuses.both (refuses : first.Refuses belongs) : (both first second).Refuses belongs := by
  intro character rest here
  rw [ways, refuses character rest here, List.flatMap_nil]

/-- A run that may be empty leaves it to the rest. -/
theorem Refuses.many_both {other : Char → Bool} (refuses : second.Refuses other)
    (apart : ∀ character, other character = true → belongs character = false) :
    (Pattern.both (.many belongs) second).Refuses other := by
  intro character rest here
  rw [ways, ways, runs, if_neg (Bool.eq_false_iff.mp (apart character here)), List.flatMap_singleton,
    refuses character rest here, List.map_nil]

end Pattern

end RoguePilot.Text
