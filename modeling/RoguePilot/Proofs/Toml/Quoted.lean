import RoguePilot.Proofs.Text.Search
import RoguePilot.Toml.Quoted

/-!
# Quoted texts are read back

Whatever a text holds, it is read back from the way it is quoted. On one line and in a block the same
escapes are read, so what an escape stands for is shown once for both. Between single quotes every
character stands for itself; in a block up to two of them may belong to the text.
-/

namespace RoguePilot.Toml

variable {quote : Quote} {character : Char} {text following rest : List Char}

theorem isBlank_eq_false_iff : isBlank character = false ↔ character ≠ ' ' ∧ character ≠ '\t' := by
  rw [isBlank, Bool.or_eq_false_iff, decide_eq_false_iff_not, decide_eq_false_iff_not]

/-! ## Escapes -/

/-- What a reader of a text between double quotes does with one character. -/
structure Unescapes (read : Quoting → List Char → Except Fault (List Char × List Char)) : Prop where
  /-- A character that is no mark stands for itself. -/
  plain (character : Char) {rest text following : List Char} (free : isPlain character = true)
    (not_mark : character ≠ '"') (not_backslash : character ≠ '\\')
    (tail : read .plain rest = .ok (text, following)) :
    read .plain (character :: rest) = .ok (character :: text, following)
  /-- A backslash begins an escape. -/
  backslash {rest text following : List Char} (tail : read .escape rest = .ok (text, following)) :
    read .plain ('\\' :: rest) = .ok (text, following)
  /-- A letter tells which. -/
  escape (letter : Char) {rest text following certain : List Char} {next : Quoting}
    (solid : isBlank letter = false ∧ letter ≠ '\n' ∧ letter ≠ '\r')
    (step : stepEscape letter = .ok (next, certain)) (tail : read next rest = .ok (text, following)) :
    read .escape (letter :: rest) = .ok (certain ++ text, following)
  /-- Or a code does. -/
  code {missing value : Nat} {digit : Char} {rest text following certain : List Char} {next : Quoting}
    (step : stepCode missing value digit = .ok (next, certain))
    (tail : read next rest = .ok (text, following)) :
    read (.code missing value) (digit :: rest) = .ok (certain ++ text, following)

theorem prepended {read : Except Fault (List Char × List Char)} (certain : List Char)
    (tail : read = .ok (text, following)) :
    (do
      let (text, following) ← read
      return (certain ++ text, following)) = Except.ok (certain ++ text, following) := by
  rw [tail]
  rfl

theorem readLine_plain (free : isPlain character = true) (not_mark : character ≠ quote.mark)
    (not_escape : (quote.escapes && decide (character = '\\')) = false)
    (tail : readLine quote .plain rest = .ok (text, following)) :
    readLine quote .plain (character :: rest) = .ok (character :: text, following) := by
  rw [readLine, if_neg not_mark, not_escape, if_neg Bool.false_ne_true, if_pos free, tail]
  · rfl
  · exact fun _ _ same => nomatch same
  · exact fun same => nomatch same

theorem readLine_mark (quote : Quote) (rest : List Char) :
    readLine quote .plain (quote.mark :: rest) = .ok ([], rest) := by
  rw [readLine, if_pos rfl]
  · exact fun _ _ same => nomatch same
  · exact fun same => nomatch same

theorem readLine_unescapes : Unescapes (readLine .basic) where
  plain character rest text following free not_mark not_backslash tail := by
    refine readLine_plain free not_mark ?_ tail
    rw [decide_eq_false not_backslash, Bool.and_false]
  backslash tail := tail
  escape letter rest text following certain next solid step tail := by
    rw [readLine, step]
    exact prepended certain tail
  code {missing value digit rest text following certain next} step tail := by
    rw [readLine, step]
    exact prepended certain tail

/-- Fewer than three marks end nothing. -/
def Quoting.GoesOn (quoting : Quoting) : Prop :=
  ∀ count, quoting = .marks count → count < 3

theorem goesOn_plain : Quoting.plain.GoesOn := fun _ same => nomatch same

theorem goesOn_escape : Quoting.escape.GoesOn := fun _ same => nomatch same

theorem goesOn_code (missing value : Nat) : (Quoting.code missing value).GoesOn :=
  fun _ same => nomatch same

theorem goesOn_marks {count : Nat} (few : count < 3) : (Quoting.marks count).GoesOn := by
  rintro _ ⟨⟩
  exact few

theorem readBlock_step {quoting next : Quoting} {certain : List Char} (goesOn : quoting.GoesOn)
    (step : stepBlock quote quoting character = .ok (next, certain))
    (tail : readBlock quote next rest = .ok (text, following)) :
    readBlock quote quoting (character :: rest) = .ok (certain ++ text, following) := by
  rw [readBlock, step]
  · exact prepended certain tail
  · exact fun same => absurd (goesOn 4 same) (by decide)
  · exact fun same => absurd (goesOn 3 same) (by decide)

theorem stepBlockPlain_of_plain (free : isPlain character = true) (not_mark : character ≠ quote.mark)
    (not_escape : (quote.escapes && decide (character = '\\')) = false) :
    stepBlockPlain quote character = .ok (.plain, [character]) := by
  have not_return : character ≠ '\r' := by
    rintro rfl
    contradiction
  rw [stepBlockPlain, if_neg not_mark, not_escape, if_neg Bool.false_ne_true, if_neg not_return, free,
    Bool.or_true, if_pos rfl]

theorem stepBlockPlain_newline (not_mark : quote.mark ≠ '\n') :
    stepBlockPlain quote '\n' = .ok (.plain, ['\n']) := by
  have not_escape : (quote.escapes && decide ('\n' = '\\')) = false := by
    rw [decide_eq_false (by decide), Bool.and_false]
  rw [stepBlockPlain, if_neg not_mark.symm, not_escape]
  rfl

theorem readBlock_unescapes : Unescapes (readBlock .basic) where
  plain character rest text following free not_mark not_backslash tail := by
    have step : stepBlock .basic .plain character = .ok (.plain, [character]) :=
      stepBlockPlain_of_plain free not_mark (by rw [decide_eq_false not_backslash, Bool.and_false])
    exact readBlock_step goesOn_plain step tail
  backslash tail := by
    have step : stepBlock .basic .plain '\\' = .ok (.escape, []) := rfl
    exact readBlock_step goesOn_plain step tail
  escape letter rest text following certain next solid step tail := by
    have same_step : stepBlock .basic .escape letter = .ok (next, certain) := by
      rw [stepBlock, solid.1, if_neg Bool.false_ne_true, if_neg solid.2.1, if_neg solid.2.2, step]
    exact readBlock_step goesOn_escape same_step tail
  code step tail := readBlock_step (goesOn_code _ _) step tail

/-! ## Escaped texts -/

section Escaped

variable {read : Quoting → List Char → Except Fault (List Char × List Char)} (unescapes : Unescapes read)

include unescapes

theorem Unescapes.letter {letter : Char} (stands : escaped? letter = some character)
    (tail : read .plain rest = .ok (text, following)) :
    read .plain ('\\' :: letter :: rest) = .ok (character :: text, following) := by
  have solid : isBlank letter = false ∧ letter ≠ '\n' ∧ letter ≠ '\r' := by
    refine ⟨isBlank_eq_false_iff.mpr ⟨?_, ?_⟩, ?_, ?_⟩
    all_goals
      rintro rfl
      contradiction
  have step : stepEscape letter = .ok (.plain, [character]) := by rw [stepEscape, stands]
  exact unescapes.backslash (unescapes.escape letter solid step tail)

theorem Unescapes.fourDigits (small : character.toNat < 0x10000)
    (tail : read .plain rest = .ok (text, following)) :
    read .plain ('\\' :: 'u' :: ((Numeral.lastDigits 16 4 character.toNat).map Char.toUpper ++ rest)) =
      .ok (character :: text, following) := by
  generalize code_eq : character.toNat = code at *
  have digits : Numeral.lastDigits 16 4 code =
      [Numeral.digitChar (code / 16 / 16 / 16 % 16), Numeral.digitChar (code / 16 / 16 % 16),
        Numeral.digitChar (code / 16 % 16), Numeral.digitChar (code % 16)] := rfl
  have value_of : ∀ digit < 16, Numeral.digit? 16 (Numeral.digitChar digit).toUpper = some digit := by
    decide
  have goes_on (missing value digit : Nat) (more : 1 < missing) (digit_lt : digit < 16) :
      stepCode missing value (Numeral.digitChar digit).toUpper =
        .ok (.code (missing - 1) (value * 16 + digit), []) := by
    have several : ¬ missing ≤ 1 := by omega
    rw [stepCode, value_of digit digit_lt]
    exact if_neg several
  have ends (value digit : Nat) (digit_lt : digit < 16) (whole : value * 16 + digit = code) :
      stepCode 1 value (Numeral.digitChar digit).toUpper = .ok (.plain, [character]) := by
    have decoded : scalar? code = some character := by
      rw [← code_eq]
      exact dif_pos character.valid
    rw [stepCode, value_of digit digit_lt]
    simp only [whole, decoded, Nat.le_refl, if_true]
  have step : stepEscape 'u' = .ok (.code 4 0, []) := rfl
  rw [digits]
  refine unescapes.backslash (unescapes.escape 'u' (by decide) step ?_)
  refine unescapes.code (goes_on 4 0 _ (by decide) (by omega)) ?_
  refine unescapes.code (goes_on 3 _ _ (by decide) (by omega)) ?_
  refine unescapes.code (goes_on 2 _ _ (by decide) (by omega)) ?_
  exact unescapes.code (ends _ _ (by omega) (by omega)) tail

/-- Each character is read back from the way it is written, a line end perhaps as itself. -/
theorem Unescapes.escaped {block : Bool}
    (newline : block = true → ∀ {rest text following : List Char},
      read .plain rest = .ok (text, following) →
        read .plain ('\n' :: rest) = .ok ('\n' :: text, following))
    (character : Char) (tail : read .plain rest = .ok (text, following)) :
    read .plain (escapeCharacter block character ++ rest) = .ok (character :: text, following) := by
  fun_cases escapeCharacter block character with
  | case1 same => exact unescapes.letter (congrArg some same.symm) tail
  | case2 _ same => exact unescapes.letter (congrArg some same.symm) tail
  | case3 _ _ same isBlock =>
      rw [same]
      exact newline isBlock tail
  | case4 _ _ same not_block => exact unescapes.letter (congrArg some same.symm) tail
  | case5 _ _ _ same => exact unescapes.letter (congrArg some same.symm) tail
  | case6 _ _ _ _ same => exact unescapes.letter (congrArg some same.symm) tail
  | case7 _ _ _ _ _ same => exact unescapes.letter (congrArg some same.symm) tail
  | case8 _ _ _ _ _ _ same => exact unescapes.letter (congrArg some same.symm) tail
  | case9 _ _ _ _ _ not_mark not_backslash free =>
      exact unescapes.plain character free not_mark not_backslash tail
  | case10 _ _ _ _ _ _ _ control =>
      have small : character.toNat < 0x10000 := by
        simp only [isPlain, Bool.or_eq_true, Bool.and_eq_true, decide_eq_true_eq] at control
        omega
      exact unescapes.fourDigits small tail

/-- A text is read back from its characters as they are written, up to the mark that ends it. -/
theorem Unescapes.flatMap_escaped {block : Bool}
    (newline : block = true → ∀ {rest text following : List Char},
      read .plain rest = .ok (text, following) →
        read .plain ('\n' :: rest) = .ok ('\n' :: text, following))
    (ends : read .plain rest = .ok ([], following)) (text : List Char) :
    read .plain (text.flatMap (escapeCharacter block) ++ rest) = .ok (text, following) := by
  induction text with
  | nil => exact ends
  | cons character text induction =>
      rw [List.flatMap_cons, List.append_assoc]
      exact unescapes.escaped newline character induction

end Escaped

theorem readLine_escaped (text rest : List Char) :
    readLine .basic .plain (text.flatMap (escapeCharacter false) ++ '"' :: rest) = .ok (text, rest) :=
  readLine_unescapes.flatMap_escaped (fun same => absurd same Bool.false_ne_true)
    (readLine_mark .basic rest) text

/-! ## The end of a block -/

theorem readBlock_marks (stopped : ∀ character ∈ rest.head?, character ≠ quote.mark) :
    readBlock quote .plain (List.replicate 3 quote.mark ++ rest) = .ok ([], rest) := by
  have last : readBlock quote (.marks 3) rest = .ok ([], rest) := by
    cases rest with
    | nil => rfl
    | cons character rest => rw [readBlock, if_neg (stopped character rfl)]
  have first : stepBlock quote .plain quote.mark = .ok (.marks 1, []) := if_pos rfl
  have more (count : Nat) : stepBlock quote (.marks count) quote.mark = .ok (.marks (count + 1), []) :=
    if_pos rfl
  exact readBlock_step goesOn_plain first (readBlock_step (goesOn_marks (by decide)) (more 1)
    (readBlock_step (goesOn_marks (by decide)) (more 2) last))

theorem readBlock_escaped (text : List Char) (stopped : ∀ character ∈ rest.head?, character ≠ '"') :
    readBlock .basic .plain (text.flatMap (escapeCharacter true) ++ (List.replicate 3 '"' ++ rest)) =
      .ok (text, rest) :=
  readBlock_unescapes.flatMap_escaped
    (fun _ => readBlock_step goesOn_plain (stepBlockPlain_newline (by decide))) (readBlock_marks stopped) text

/-! ## Texts that stand for themselves -/

theorem readLine_literal (plain : ∀ character ∈ text, isPlain character = true) (unmarked : '\'' ∉ text)
    (rest : List Char) : readLine .literal .plain (text ++ '\'' :: rest) = .ok (text, rest) := by
  induction text with
  | nil => exact readLine_mark .literal rest
  | cons character text induction =>
      obtain ⟨here, later⟩ := List.forall_mem_cons.mp plain
      obtain ⟨not_here, not_later⟩ := List.ne_and_not_mem_of_not_mem_cons unmarked
      exact readLine_plain here not_here.symm rfl (induction later not_later)

/-- Reading a block after so many quotation marks, too few to end it. -/
def Quoting.pending (count : Nat) : Quoting :=
  if count = 0 then .plain else .marks count

theorem goesOn_pending {count : Nat} (few : count < 3) : (Quoting.pending count).GoesOn := by
  rw [Quoting.pending]
  split
  · exact goesOn_plain
  · exact goesOn_marks few

theorem stepBlock_mark (quote : Quote) (count : Nat) :
    stepBlock quote (.pending count) quote.mark = .ok (.pending (count + 1), []) := by
  cases count with
  | zero => exact if_pos rfl
  | succ count => exact if_pos rfl

/-- Marks that end nothing belong to the text. -/
theorem stepBlock_literal (count : Nat) (free : character = '\n' ∨ isPlain character = true)
    (not_mark : character ≠ '\'') :
    stepBlock .literal (.pending count) character =
      .ok (.pending 0, List.replicate count '\'' ++ [character]) := by
  have step : stepBlockPlain .literal character = .ok (.plain, [character]) := by
    rcases free with rfl | free
    · exact stepBlockPlain_newline (by decide)
    · exact stepBlockPlain_of_plain free not_mark rfl
  cases count with
  | zero => exact step
  | succ count =>
      have other : ¬ character = Quote.literal.mark := not_mark
      change (if character = Quote.literal.mark then _ else _) = _
      rw [if_neg other, step]
      rfl

/-- Fewer than three quotation marks stand in a row. -/
theorem lt_three_of_occurs {count : Nat}
    (few : Text.occurs ['\'', '\'', '\''] (List.replicate count '\'' ++ text) = false) : count < 3 := by
  refine Nat.lt_of_not_le fun many => ?_
  obtain ⟨more, rfl⟩ := Nat.exists_eq_add_of_le many
  rw [← List.replicate_append_replicate, List.append_assoc] at few
  exact Bool.false_ne_true (few.symm.trans (Text.occurs_append_right _ (by decide)))

theorem readBlock_literal {count : Nat} (free : ∀ character ∈ text, character = '\n' ∨ isPlain character = true)
    (few : Text.occurs ['\'', '\'', '\''] (List.replicate count '\'' ++ text) = false)
    (ends : Text.endsWith ['\''] (List.replicate count '\'' ++ text) = false)
    (stopped : ∀ character ∈ rest.head?, character ≠ '\'') :
    readBlock .literal (.pending count) (text ++ (List.replicate 3 '\'' ++ rest)) =
      .ok (List.replicate count '\'' ++ text, rest) := by
  have goesOn := goesOn_pending (lt_three_of_occurs few)
  induction text generalizing count with
  | nil =>
      cases count with
      | zero => exact readBlock_marks stopped
      | succ count =>
          rw [List.append_nil, List.replicate_succ', Text.endsWith, Bool.eq_false_iff, ne_eq,
            List.isSuffixOf_iff_suffix] at ends
          exact absurd (List.suffix_append _ _) ends
  | cons character text induction =>
      obtain ⟨here, later⟩ := List.forall_mem_cons.mp free
      by_cases mark : character = '\''
      · subst mark
        have longer : List.replicate count '\'' ++ '\'' :: text = List.replicate (count + 1) '\'' ++ text := by
          rw [List.replicate_succ', List.append_assoc, List.singleton_append]
        rw [longer] at few ends ⊢
        have tail := readBlock_step goesOn (stepBlock_mark .literal count)
          (induction later few ends (goesOn_pending (lt_three_of_occurs few)))
        exact tail
      · rw [List.append_cons] at few ends ⊢
        have few_later : Text.occurs ['\'', '\'', '\''] (List.replicate 0 '\'' ++ text) = false :=
          Bool.eq_false_iff.mpr fun found =>
            Bool.eq_false_iff.mp few (Text.occurs_append_left _ found)
        have ends_later : Text.endsWith ['\''] (List.replicate 0 '\'' ++ text) = false := by
          rw [Text.endsWith, Bool.eq_false_iff, ne_eq, List.isSuffixOf_iff_suffix] at ends ⊢
          exact fun found => ends (found.trans (List.suffix_append _ _))
        exact readBlock_step goesOn (stepBlock_literal count here mark)
          (induction later few_later ends_later goesOn_plain)

/-! ## Quoted texts -/

/-- The quotation marks that are chosen for a text. -/
def quoteOf (text : List Char) : Quote :=
  if wantsLiteral text && fitsLiteral text then .literal else .basic

theorem dropLineEnd_of_head? (newline : text.head? ≠ some '\n') (carriage : text.head? ≠ some '\r') :
    dropLineEnd text = text := by
  rw [dropLineEnd]
  · rintro rest rfl
    exact newline rfl
  · rintro rest rfl
    exact carriage rfl

theorem readQuoted_block (quote : Quote) (text : List Char) :
    readQuoted quote (List.replicate 3 quote.mark ++ text) = readBlock quote .plain (dropLineEnd text) := by
  have opens : Text.dropWord (List.replicate 3 quote.mark) (List.replicate 3 quote.mark ++ text) = some text :=
    Text.dropWord_eq_some.mpr rfl
  rw [readQuoted.eq_def, opens]

theorem readQuoted_line (unmarked : Text.dropWord (List.replicate 2 quote.mark) text = none) :
    readQuoted quote (quote.mark :: text) = readLine quote .plain text := by
  have single : Text.dropWord (List.replicate 3 quote.mark) (quote.mark :: text) = none :=
    (Text.dropWord_cons_self _ _ _).trans unmarked
  rw [readQuoted, single]

theorem escapeCharacter_eq_cons (block : Bool) (character : Char) :
    ∃ first later, escapeCharacter block character = first :: later ∧ first ≠ '"' := by
  fun_cases escapeCharacter block character with
  | case9 _ _ _ _ _ not_mark not_backslash free => exact ⟨_, _, rfl, not_mark⟩
  | _ => exact ⟨_, _, rfl, by decide⟩

theorem readQuoted_literal_line (some : text ≠ []) (unmarked : '\'' ∉ text) (fits : fitsLiteral text = true)
    (single : '\n' ∉ text) : readQuoted .literal ('\'' :: (text ++ '\'' :: rest)) = .ok (text, rest) := by
  have plain : ∀ character ∈ text, isPlain character = true := by
    intro character member
    simp only [fitsLiteral, Bool.and_eq_true, List.all_eq_true, Bool.or_eq_true, decide_eq_true_eq] at fits
    rcases fits.1.1 character member with rfl | plain
    · exact absurd member single
    · exact plain
  have not_marks : Text.dropWord (List.replicate 2 '\'') (text ++ '\'' :: rest) = none := by
    obtain ⟨first, later, rfl⟩ := List.exists_cons_of_ne_nil some
    refine Text.dropWord_of_head? ?_
    rintro _ ⟨⟩ rfl
    exact unmarked List.mem_cons_self
  exact (readQuoted_line not_marks).trans (readLine_literal plain unmarked rest)

section Quoted

variable (stopped : ∀ character ∈ rest.head?, character ≠ '"' ∧ character ≠ '\'')

include stopped

theorem readQuoted_basic_block (text : List Char) :
    readQuoted .basic (List.replicate 3 '"' ++ '\n' :: (text.flatMap (escapeCharacter true) ++
      (List.replicate 3 '"' ++ rest))) = .ok (text, rest) :=
  (readQuoted_block .basic _).trans
    (readBlock_escaped text fun character first => (stopped character first).1)

theorem readQuoted_basic_line (text : List Char) :
    readQuoted .basic ('"' :: (text.flatMap (escapeCharacter false) ++ '"' :: rest)) =
      .ok (text, rest) := by
  have unmarked : Text.dropWord (List.replicate 2 '"')
      (text.flatMap (escapeCharacter false) ++ '"' :: rest) = none := by
    cases text with
    | nil =>
        exact (Text.dropWord_cons_self _ _ _).trans
          (Text.dropWord_of_head? fun character first => (stopped character first).1)
    | cons character text =>
        obtain ⟨first, later, written, not_mark⟩ := escapeCharacter_eq_cons false character
        rw [List.flatMap_cons, written, List.cons_append, List.cons_append]
        exact Text.dropWord_of_head? (by rintro _ ⟨⟩; exact not_mark)
  exact (readQuoted_line unmarked).trans (readLine_escaped text rest)

theorem readQuoted_literal_block {opening : List Char} (opens : dropLineEnd (opening ++ (text ++
      (List.replicate 3 '\'' ++ rest))) = text ++ (List.replicate 3 '\'' ++ rest))
    (fits : fitsLiteral text = true) :
    readQuoted .literal (List.replicate 3 '\'' ++ (opening ++ (text ++ (List.replicate 3 '\'' ++ rest)))) =
      .ok (text, rest) := by
  simp only [fitsLiteral, Bool.and_eq_true, List.all_eq_true, Bool.or_eq_true, decide_eq_true_eq,
    Bool.not_eq_true'] at fits
  have read : readBlock .literal (.pending 0) (text ++ (List.replicate 3 '\'' ++ rest)) =
      .ok (List.replicate 0 '\'' ++ text, rest) :=
    readBlock_literal fits.1.1 fits.1.2 fits.2 fun character first => (stopped character first).2
  rw [← opens] at read
  exact (readQuoted_block .literal _).trans read

/-- Whatever a text holds, it is read back from the way it is quoted. -/
theorem readQuoted_quoted (text : List Char) :
    readQuoted (quoteOf text) (quoted text ++ rest) = .ok (text, rest) := by
  rw [quoteOf, quoted]
  by_cases literal : (wantsLiteral text && fitsLiteral text) = true
  · rw [if_pos literal, if_pos literal]
    obtain ⟨wants, fits⟩ := Bool.and_eq_true_iff.mp literal
    have some : text ≠ [] := by
      rintro rfl
      contradiction
    by_cases block : text.contains '\n' = true
    · rw [if_pos block, List.append_assoc, List.append_assoc]
      have opens : dropLineEnd (['\n'] ++ (text ++ (List.replicate 3 '\'' ++ rest))) =
          text ++ (List.replicate 3 '\'' ++ rest) := rfl
      exact readQuoted_literal_block stopped opens fits
    · have single : '\n' ∉ text := fun member => block (List.contains_iff_mem.mpr member)
      rw [if_neg block]
      by_cases marked : text.contains '\'' = true
      · rw [if_pos marked, List.append_assoc, List.append_assoc]
        have opens : dropLineEnd ([] ++ (text ++ (List.replicate 3 '\'' ++ rest))) =
            text ++ (List.replicate 3 '\'' ++ rest) := by
          obtain ⟨first, later, rfl⟩ := List.exists_cons_of_ne_nil some
          refine dropLineEnd_of_head? ?_ ?_
          · rintro ⟨⟩
            exact single List.mem_cons_self
          · rintro ⟨⟩
            contradiction
        exact readQuoted_literal_block stopped opens fits
      · have unmarked : '\'' ∉ text := fun member => marked (List.contains_iff_mem.mpr member)
        rw [if_neg marked, List.append_assoc, List.cons_append, List.singleton_append]
        exact readQuoted_literal_line some unmarked fits single
  · rw [if_neg literal, if_neg literal]
    by_cases block : text.contains '\n' = true
    · rw [if_pos block, block, List.append_assoc, List.append_assoc]
      exact readQuoted_basic_block stopped text
    · rw [if_neg block, Bool.eq_false_iff.mpr block, List.append_assoc, List.cons_append,
        List.singleton_append]
      exact readQuoted_basic_line stopped text

end Quoted

end RoguePilot.Toml
