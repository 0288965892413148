import RoguePilot.Proofs.Text.Pattern

/-!
# Words in order

Words are looked for one after the other, each at its first place behind the word before it. No choice of
places does better, since the first place of a word leaves the most text behind it. So words are found in
order just when they can be placed in order at all, which is also what a matcher finds that tries gaps of
every length between them.
-/

namespace RoguePilot.Text

/-- The words follow in the text, each behind a gap of the allowed kind. -/
def Follow (allowed : List Char → Prop) : List (List Char) → List Char → Prop
  | [], _ => True
  | word :: words, text =>
    ∃ gap later, text = gap ++ (word ++ later) ∧ allowed gap ∧ Follow allowed words later

/-- The words stand in the text in this order, with gaps of the allowed kind between them. -/
def StandInOrder (allowed : List Char → Prop) : List (List Char) → List Char → Prop
  | [], _ => True
  | word :: words, text => ∃ before later, text = before ++ (word ++ later) ∧ Follow allowed words later

/-- The gap has at least as many characters. -/
def Wide (least : Nat) (gap : List Char) : Prop :=
  least ≤ gap.length

section Order

variable {allowed other : List Char → Prop} {word text : List Char} {words : List (List Char)} {gap : Nat}

theorem Follow.append (follow : Follow allowed words text) (more : List Char) :
    Follow allowed words (text ++ more) := by
  induction words generalizing text with
  | nil => trivial
  | cons word words induction =>
      obtain ⟨gap, later, rfl, fits, follow⟩ := follow
      exact ⟨gap, later ++ more, by simp only [List.append_assoc], fits, induction follow⟩

theorem StandInOrder.append (stand : StandInOrder allowed words text) (more : List Char) :
    StandInOrder allowed words (text ++ more) := by
  cases words with
  | nil => trivial
  | cons word words =>
      obtain ⟨before, later, rfl, follow⟩ := stand
      exact ⟨before, later ++ more, by simp only [List.append_assoc], follow.append more⟩

/-- Only the gaps in the text matter. -/
theorem follow_congr (same : ∀ gap, gap <:+: text → (allowed gap ↔ other gap)) :
    Follow allowed words text ↔ Follow other words text := by
  induction words generalizing text with
  | nil => rfl
  | cons word words induction =>
      refine exists_congr fun gap => exists_congr fun later => and_congr_right fun text_eq => ?_
      have inside : gap <:+: text := ⟨[], word ++ later, text_eq.symm⟩
      have behind : later <:+: text := ⟨gap ++ word, [], by rw [text_eq]; simp⟩
      exact and_congr (same gap inside) (induction fun gap within => same gap (within.trans behind))

theorem standInOrder_congr (same : ∀ gap, gap <:+: text → (allowed gap ↔ other gap)) :
    StandInOrder allowed words text ↔ StandInOrder other words text := by
  cases words with
  | nil => rfl
  | cons word words =>
      refine exists_congr fun before => exists_congr fun later => and_congr_right fun text_eq => ?_
      have behind : later <:+: text := ⟨before ++ word, [], by rw [text_eq]; simp⟩
      exact follow_congr fun gap within => same gap (within.trans behind)

/-- Four words in order, written out. -/
theorem standInOrder_four_iff {first second third fourth : List Char} :
    StandInOrder allowed [first, second, third, fourth] text ↔
      ∃ before one two three after,
        text = before ++ first ++ one ++ second ++ two ++ third ++ three ++ fourth ++ after ∧
          allowed one ∧ allowed two ∧ allowed three := by
  constructor
  · rintro ⟨before, _, rfl, one, _, rfl, fits_one, two, _, rfl, fits_two, three, after, rfl, fits_three, -⟩
    exact ⟨before, one, two, three, after, by simp only [List.append_assoc], fits_one, fits_two, fits_three⟩
  · rintro ⟨before, one, two, three, after, rfl, fits_one, fits_two, fits_three⟩
    refine ⟨before, one ++ (second ++ (two ++ (third ++ (three ++ (fourth ++ after))))), ?_, one, _, rfl, fits_one,
      two, _, rfl, fits_two, three, after, rfl, fits_three, trivial⟩
    simp only [List.append_assoc]

/-! ## Taking the first place each time -/

/-- The first place of a word leaves at least as much behind it as any other place. -/
theorem exists_afterFirst (before word after : List Char) :
    ∃ following, afterFirst word (before ++ (word ++ after)) = some following ∧ after <:+ following := by
  induction before with
  | nil => exact ⟨after, (afterFirst_eq_readAfter word _).trans (readAfter_here rfl), List.suffix_rfl⟩
  | cons character before induction =>
      rw [List.cons_append, afterFirst]
      cases dropped : dropWord word (character :: (before ++ (word ++ after))) with
      | none => exact induction
      | some following =>
          refine ⟨following, rfl, ?_⟩
          have split := dropWord_eq_some.mp dropped
          have shorter : after.length ≤ following.length := by
            have lengths := congrArg List.length split
            simp only [List.length_cons, List.length_append] at lengths
            omega
          refine List.suffix_of_suffix_length_le ⟨character :: before ++ word, ?_⟩ ⟨word, split.symm⟩ shorter
          rw [List.append_assoc]
          rfl

/-- A word follows behind a wide gap just when it stands somewhere behind as many characters. -/
theorem follow_wide_iff (nonempty : word ≠ []) :
    Follow (Wide gap) (word :: words) text ↔ StandInOrder (Wide gap) (word :: words) (text.drop gap) := by
  constructor
  · rintro ⟨between, later, rfl, wide, follow⟩
    exact ⟨between.drop gap, later, List.drop_append_of_le_length wide, follow⟩
  · rintro ⟨between, later, dropped, follow⟩
    -- The word has a character, so the text goes on behind the characters that are left out.
    have some_left : text.drop gap ≠ [] := by
      rw [dropped]
      simp [nonempty]
    have wide : gap ≤ text.length := Nat.le_of_not_le fun short => some_left (List.drop_eq_nil_of_le short)
    refine ⟨text.take gap ++ between, later, ?_, ?_, follow⟩
    · rw [List.append_assoc, ← dropped, List.take_append_drop]
    · calc
        gap ≤ (text.take gap).length + between.length :=
          Nat.le_add_right_of_le (Nat.le_of_eq (List.length_take_of_le wide).symm)
        _ = (text.take gap ++ between).length := List.length_append.symm

/-- A wide gap may begin earlier. -/
theorem Follow.prepend (follow : Follow (Wide gap) words text) (more : List Char) :
    Follow (Wide gap) words (more ++ text) := by
  cases words with
  | nil => trivial
  | cons word words =>
      obtain ⟨between, later, rfl, wide, follow⟩ := follow
      refine ⟨more ++ between, later, (List.append_assoc _ _ _).symm, ?_, follow⟩
      exact Nat.le_trans wide (List.length_append ▸ Nat.le_add_left _ _)

/-- Words are found in order just when they stand in order. -/
theorem inOrder_iff_standInOrder (nonempty : ∀ word ∈ words, word ≠ []) :
    inOrder gap words text = true ↔ StandInOrder (Wide gap) words text := by
  induction words generalizing text with
  | nil => exact iff_of_true rfl trivial
  | cons word words induction =>
      obtain ⟨-, nonempty⟩ := List.forall_mem_cons.mp nonempty
      cases words with
      | nil =>
          rw [inOrder]
          constructor
          · intro found
            obtain ⟨following, first⟩ := Option.isSome_iff_exists.mp found
            obtain ⟨before, rfl⟩ := exists_of_afterFirst first
            exact ⟨before, following, List.append_assoc _ _ _, trivial⟩
          · rintro ⟨before, later, rfl, -⟩
            obtain ⟨following, first, -⟩ := exists_afterFirst before word later
            rw [first]
            rfl
      | cons next words =>
          have next_iff {following : List Char} : inOrder gap (next :: words) (following.drop gap) = true ↔
              Follow (Wide gap) (next :: words) following :=
            (induction nonempty).trans (follow_wide_iff (List.forall_mem_cons.mp nonempty).1).symm
          rw [inOrder]
          constructor
          · intro found
            cases first : afterFirst word text with
            | none =>
                rw [first] at found
                exact absurd found Bool.false_ne_true
            | some following =>
                rw [first] at found
                obtain ⟨before, rfl⟩ := exists_of_afterFirst first
                exact ⟨before, following, List.append_assoc _ _ _, next_iff.mp found⟩
          · rintro ⟨before, after, rfl, follow⟩
            obtain ⟨following, first, extra, rfl⟩ := exists_afterFirst before word after
            rw [first]
            exact next_iff.mpr (follow.prepend extra)

/-! ## Trying gaps of every length -/

/-- The pattern of words one after the other with gaps between them. -/
def Pattern.chain (gap : Pattern) : List (List Char) → Pattern
  | [] => .word []
  | [word] => .word word
  | word :: next :: words => .both (.word word) (.both gap (chain gap (next :: words)))

section Chain

variable {gap : Pattern} (gaps : ∀ taken, (∃ kept, gap.Matches taken kept) ↔ allowed taken)

include gaps

theorem exists_matches_chain_iff :
    (∃ matched kept rest, text = matched ++ rest ∧ (Pattern.chain gap (word :: words)).Matches matched kept) ↔
      ∃ later, text = word ++ later ∧ Follow allowed words later := by
  induction words generalizing word text with
  | nil =>
      constructor
      · rintro ⟨matched, kept, rest, text_eq, found⟩
        obtain ⟨rfl, -⟩ := Pattern.matches_word_iff.mp found
        exact ⟨rest, text_eq, trivial⟩
      · rintro ⟨later, text_eq, -⟩
        exact ⟨word, [], later, text_eq, .word word⟩
  | cons next words induction =>
      constructor
      · rintro ⟨matched, kept, rest, text_eq, found⟩
        obtain ⟨_, _, _, _, here, behind, rfl, rfl⟩ := Pattern.matches_both_iff.mp found
        obtain ⟨rfl, -⟩ := Pattern.matches_word_iff.mp here
        obtain ⟨taken, matched, _, kept, in_gap, later_found, rfl, rfl⟩ := Pattern.matches_both_iff.mp behind
        obtain ⟨later, split, follow⟩ := induction.mp ⟨matched, kept, rest, rfl, later_found⟩
        refine ⟨taken ++ (next ++ later), ?_, taken, later, rfl, (gaps taken).mp ⟨_, in_gap⟩, follow⟩
        rw [text_eq, ← split]
        simp only [List.append_assoc]
      · rintro ⟨_, rfl, taken, later, rfl, fits, follow⟩
        obtain ⟨matched, kept, rest, split, found⟩ := induction.mpr ⟨later, rfl, follow⟩
        obtain ⟨_, in_gap⟩ := (gaps taken).mpr fits
        refine ⟨word ++ (taken ++ matched), _, rest, ?_, .both (.word word) (.both in_gap found)⟩
        rw [split]
        simp only [List.append_assoc]

/-- A search for the pattern finds something just when the words stand in order. -/
theorem search_chain_isSome_iff :
    ((Pattern.chain gap words).search text).isSome = true ↔ StandInOrder allowed words text := by
  rw [Pattern.search_isSome_iff]
  cases words with
  | nil => exact iff_of_true ⟨[], [], [], text, rfl, .word []⟩ trivial
  | cons word words =>
      constructor
      · rintro ⟨before, matched, kept, rest, rfl, found⟩
        obtain ⟨later, split, follow⟩ := (exists_matches_chain_iff gaps).mp ⟨matched, kept, rest, rfl, found⟩
        exact ⟨before, later, congrArg (before ++ ·) split, follow⟩
      · rintro ⟨before, later, rfl, follow⟩
        obtain ⟨matched, kept, rest, split, found⟩ := (exists_matches_chain_iff gaps).mpr ⟨later, rfl, follow⟩
        exact ⟨before, matched, kept, rest, congrArg (before ++ ·) split, found⟩

end Chain

end Order

end RoguePilot.Text
