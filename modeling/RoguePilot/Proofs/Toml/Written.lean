import RoguePilot.Proofs.Toml.Quoted
import RoguePilot.Proofs.Toml.Word
import RoguePilot.Toml.Written

/-!
# Written documents are read back

A document is read value by value and statement by statement, each with whatever follows it, so a document
that is written yields the statements of its sections.
-/

namespace RoguePilot.Toml

variable {rest : List Char}

/-- A character of a kind to which no blank belongs is not blank. -/
theorem isBlank_eq_false {holds : Char → Bool} {character : Char} (here : holds character = true)
    (space : holds ' ' = false) (tab : holds '\t' = false) : isBlank character = false :=
  isBlank_eq_false_iff.mpr ⟨Text.ne_of_holds here space, Text.ne_of_holds here tab⟩

/-! ## Values -/

/-- The mark a quoted text begins with tells how it is read. -/
theorem quoted_cases (text : List Char) :
    (quoteOf text = .literal ∧ ∃ later, quoted text = '\'' :: later) ∨
      (quoteOf text = .basic ∧ ∃ later, quoted text = '"' :: later) := by
  rw [quoteOf, quoted]
  by_cases literal : (wantsLiteral text && fitsLiteral text) = true
  · rw [if_pos literal, if_pos literal]
    refine .inl ⟨rfl, ?_⟩
    split
    · exact ⟨_, rfl⟩
    · split
      · exact ⟨_, rfl⟩
      · exact ⟨_, rfl⟩
  · rw [if_neg literal, if_neg literal]
    refine .inr ⟨rfl, ?_⟩
    split
    · exact ⟨_, rfl⟩
    · exact ⟨_, rfl⟩

theorem readValue_quoted (depth : Nat) (text : String)
    (stopped : ∀ character ∈ rest.head?, character ≠ '"' ∧ character ≠ '\'') :
    readValue depth (quoted text.toList ++ rest) = .ok (.text text, rest) := by
  have read := readQuoted_quoted stopped text.toList
  have text_eq : String.ofList text.toList = text := String.ofList_toList
  rcases quoted_cases text.toList with ⟨literal, later, written⟩ | ⟨basic, later, written⟩
  · rw [literal, written, List.cons_append] at read
    rw [written, List.cons_append, readValue, read]
    exact congrArg (fun text => Except.ok (Value.text text, rest)) text_eq
  · rw [basic, written, List.cons_append] at read
    rw [written, List.cons_append, readValue, read]
    exact congrArg (fun text => Except.ok (Value.text text, rest)) text_eq

theorem readValue_decimal (depth : Nat) {number : Nat} (fitting : Word.fits number = true)
    (stopped : ∀ character ∈ rest.head?, Word.belongs character = false) (solid : rest.head? ≠ some ' ') :
    readValue depth (Numeral.decimal number ++ rest) = .ok (.integer number, rest) := by
  have read := Word.read_decimal fitting stopped solid
  obtain ⟨first, later, written⟩ := List.exists_cons_of_ne_nil (Numeral.decimal_ne_nil number)
  have digit : first.isDigit = true := Numeral.isDigit_of_mem_decimal (written ▸ List.mem_cons_self)
  rw [written, List.cons_append] at read ⊢
  rw [readValue, read]
  -- no other kind of value begins with a digit
  all_goals
    rintro _ ⟨⟩
    exact absurd digit (by decide)

/-! ## Lists -/

theorem skipSpace_quoted (text : List Char) (rest : List Char) :
    skipSpace false (quoted text ++ rest) = .ok (quoted text ++ rest) := by
  rcases quoted_cases text with ⟨_, later, written⟩ | ⟨_, later, written⟩
  · rw [written]
    rfl
  · rw [written]
    rfl

theorem head?_quoted_ne (text : List Char) {excluded : Char}
    (other : excluded ≠ '"' ∧ excluded ≠ '\'') : (quoted text ++ rest).head? ≠ some excluded := by
  rcases quoted_cases text with ⟨_, later, written⟩ | ⟨_, later, written⟩
  · rw [written]
    rintro ⟨⟩
    exact other.2 rfl
  · rw [written]
    rintro ⟨⟩
    exact other.1 rfl

/-- A line of a list that takes several. -/
def itemLine (item : String) : List Char :=
  "    ".toList ++ quoted item.toList ++ ",\n".toList

theorem readItems_comma {item : Reader Value} {most : Nat} {text start next : List Char} {value : Value}
    {values : List Value} (space : skipSpace false text = .ok start) (goesOn : start.head? ≠ some ']')
    (read : item start = .ok (value, ',' :: next)) (tail : readItems item most next = .ok (values, rest)) :
    readItems item (most + 1) text = .ok (value :: values, rest) := by
  have comma : skipSpace false (',' :: next) = .ok (',' :: next) := rfl
  rw [readItems, space]
  simp only [bind, Except.bind]
  split
  · exact absurd rfl goesOn
  · rw [read]
    simp only [comma, tail]
    rfl

theorem readItems_last {item : Reader Value} {most : Nat} {text start : List Char} {value : Value}
    (space : skipSpace false text = .ok start) (goesOn : start.head? ≠ some ']')
    (read : item start = .ok (value, ']' :: rest)) :
    readItems item (most + 1) text = .ok ([value], rest) := by
  have bracket : skipSpace false (']' :: rest) = .ok (']' :: rest) := rfl
  rw [readItems, space]
  simp only [bind, Except.bind]
  split
  · exact absurd rfl goesOn
  · rw [read]
    simp only [bracket]
    rfl

theorem readItems_lines (depth : Nat) (items : List String) {most : Nat} (enough : items.length < most) :
    readItems (readValue depth) most ('\n' :: (items.flatMap itemLine ++ ']' :: rest)) =
      .ok (items.map .text, rest) := by
  induction items generalizing most with
  | nil =>
      obtain ⟨most, rfl⟩ := Nat.exists_eq_succ_of_ne_zero (Nat.ne_of_gt enough)
      rfl
  | cons item items induction =>
      obtain ⟨most, rfl⟩ := Nat.exists_eq_succ_of_ne_zero (Nat.ne_of_gt (Nat.zero_lt_of_lt enough))
      have layout : '\n' :: ((item :: items).flatMap itemLine ++ ']' :: rest) =
          "\n    ".toList ++ (quoted item.toList ++
            ',' :: '\n' :: (items.flatMap itemLine ++ ']' :: rest)) := by
        rw [List.flatMap_cons, itemLine, List.append_assoc, List.append_assoc, List.append_assoc]
        rfl
      have value := readValue_quoted depth item (Text.forall_mem_head?_cons
        (by decide : ',' ≠ '"' ∧ ',' ≠ '\'') ('\n' :: (items.flatMap itemLine ++ ']' :: rest)))
      have space : skipSpace false ("\n    ".toList ++ (quoted item.toList ++
          ',' :: '\n' :: (items.flatMap itemLine ++ ']' :: rest))) =
            .ok (quoted item.toList ++ ',' :: '\n' :: (items.flatMap itemLine ++ ']' :: rest)) :=
        skipSpace_quoted item.toList _
      rw [layout]
      exact readItems_comma space (head?_quoted_ne item.toList (by decide)) value
        (induction (Nat.lt_of_succ_lt_succ enough))

theorem length_le_length_flatMap {α : Type} (write : α → List Char) (entries : List α)
    (some : ∀ entry ∈ entries, write entry ≠ []) : entries.length ≤ (entries.flatMap write).length := by
  induction entries with
  | nil => exact Nat.le_refl 0
  | cons entry entries induction =>
      obtain ⟨here, later⟩ := List.forall_mem_cons.mp some
      have positive := List.length_pos_iff.mpr here
      have rest := induction later
      rw [List.flatMap_cons, List.length_append, List.length_cons]
      omega

/-- A list is read back from one line or from several. -/
theorem readValue_renderTexts (depth : Nat) (items : List String) (rest : List Char) :
    readValue (depth + 1) (renderTexts items ++ rest) = .ok (.array (items.map .text), rest) := by
  match items with
  | [] => rfl
  | [item] =>
      have value := readValue_quoted depth item
        (Text.forall_mem_head?_cons (by decide : ']' ≠ '"' ∧ ']' ≠ '\'') rest)
      have layout : renderTexts [item] ++ rest = '[' :: (quoted item.toList ++ ']' :: rest) := by
        rw [renderTexts, List.append_assoc, List.cons_append, List.singleton_append]
      rw [layout, readValue, readItems_last (skipSpace_quoted _ _)
        (head?_quoted_ne item.toList (by decide)) value]
      rfl
  | first :: second :: items =>
      have layout : renderTexts (first :: second :: items) ++ rest =
          '[' :: '\n' :: ((first :: second :: items).flatMap itemLine ++ ']' :: rest) := by
        rw [renderTexts, List.append_assoc, List.append_assoc, List.singleton_append]
        · rfl
        · exact fun same => nomatch same
        · exact fun _ same => nomatch same
      have enough : (first :: second :: items).length <
          ('\n' :: ((first :: second :: items).flatMap itemLine ++ ']' :: rest)).length + 1 := by
        have lines := length_le_length_flatMap itemLine (first :: second :: items)
          fun item _ => List.append_ne_nil_of_right_ne_nil _ (by decide)
        simp only [List.length_cons, List.length_append] at lines ⊢
        omega
      rw [layout, readValue, readItems_lines depth _ enough]
      rfl

/-- A number that is written can be read. -/
def Written.fits : Written → Bool
  | .number amount => Word.fits amount
  | _ => true

theorem readValue_render {written : Written} (fitting : written.fits = true) (rest : List Char) :
    readValue deepest (written.render ++ '\n' :: rest) = .ok (written.toValue, '\n' :: rest) := by
  cases written with
  | text content =>
      exact readValue_quoted deepest content
        (Text.forall_mem_head?_cons (by decide : '\n' ≠ '"' ∧ '\n' ≠ '\'') rest)
  | number amount =>
      exact readValue_decimal deepest fitting
        (Text.forall_mem_head?_cons (by decide : Word.belongs '\n' = false) rest) (by rintro ⟨⟩)
  | texts items => exact readValue_renderTexts 78 items _

theorem skipBlanks_of_head? {text : List Char} (stopped : ∀ character ∈ text.head?, isBlank character = false) :
    skipBlanks text = text :=
  Text.dropWhile_of_stopped stopped

theorem skipBlanks_render (written : Written) (rest : List Char) :
    skipBlanks (written.render ++ rest) = written.render ++ rest := by
  refine skipBlanks_of_head? ?_
  cases written with
  | text content =>
      rcases quoted_cases content.toList with ⟨_, later, quoted_eq⟩ | ⟨_, later, quoted_eq⟩
      · rw [Written.render, quoted_eq]
        exact Text.forall_mem_head?_cons (by decide : isBlank '\'' = false) _
      · rw [Written.render, quoted_eq]
        exact Text.forall_mem_head?_cons (by decide : isBlank '"' = false) _
  | number amount =>
      obtain ⟨first, later, numeral⟩ := List.exists_cons_of_ne_nil (Numeral.decimal_ne_nil amount)
      have digit : first.isDigit = true := Numeral.isDigit_of_mem_decimal (numeral ▸ List.mem_cons_self)
      rw [Written.render, numeral]
      exact Text.forall_mem_head?_cons (isBlank_eq_false digit (by decide) (by decide)) _
  | texts items =>
      have bracket : isBlank '[' = false := by decide
      match items with
      | [] => exact Text.forall_mem_head?_cons bracket _
      | [item] => exact Text.forall_mem_head?_cons bracket _
      | first :: second :: items => exact Text.forall_mem_head?_cons bracket _

/-! ## Keys -/

/-- The name can be written without quotes. -/
structure IsBareName (name : String) : Prop where
  ne_nil : name.toList ≠ []
  bare : ∀ character ∈ name.toList, isBare character = true

instance (name : String) : Decidable (IsBareName name) :=
  decidable_of_iff (name.toList ≠ [] ∧ name.toList.all isBare = true)
    ⟨fun both => ⟨both.1, List.all_eq_true.mp both.2⟩,
      fun bareName => ⟨bareName.ne_nil, List.all_eq_true.mpr bareName.bare⟩⟩

theorem IsBareName.exists_cons {name : String} (bareName : IsBareName name) :
    ∃ first later, name.toList = first :: later ∧ isBare first = true := by
  obtain ⟨first, later, written⟩ := List.exists_cons_of_ne_nil bareName.ne_nil
  exact ⟨first, later, written, bareName.bare first (written ▸ List.mem_cons_self)⟩

theorem readKeyPart_bare {name : String} (bareName : IsBareName name)
    (stopped : ∀ character ∈ rest.head?, isBare character = false) :
    readKeyPart (name.toList ++ rest) = .ok (name, rest) := by
  have taken : (name.toList ++ rest).takeWhile isBare = name.toList :=
    Text.takeWhile_append bareName.bare stopped
  have left : (name.toList ++ rest).dropWhile isBare = rest := Text.dropWhile_append bareName.bare stopped
  have some : name.toList.isEmpty = false := List.isEmpty_eq_false_iff.mpr bareName.ne_nil
  obtain ⟨first, later, written, bare⟩ := bareName.exists_cons
  rw [readKeyPart, taken, left, some, String.ofList_toList]
  · rfl
  all_goals
    rw [written]
    rintro _ ⟨⟩
    exact absurd bare (by decide)

theorem readKey_bare {name : String} (bareName : IsBareName name)
    (stopped : ∀ character ∈ rest.head?, isBare character = false)
    (single : (skipBlanks rest).head? ≠ some '.') :
    readKey (name.toList ++ rest) = .ok (⟨[], name⟩, skipBlanks rest) := by
  have parts : readKeyParts mostKeyParts (name.toList ++ rest) = .ok ([name], skipBlanks rest) := by
    rw [mostKeyParts, readKeyParts, readKeyPart_bare bareName stopped]
    simp only [bind, Except.bind]
    split
    · next followed =>
      rw [followed] at single
      exact absurd rfl single
    · rfl
  rw [readKey, parts]
  rfl

/-! ## Statements -/

/-- The statement of a setting. -/
def definition (setting : String × Written) : Statement :=
  .defines ⟨[], setting.1⟩ setting.2.toValue

/-- A setting that can be written and read. -/
structure IsReadable (setting : String × Written) : Prop where
  key : IsBareName setting.1
  value : setting.2.fits = true

theorem endLine_newline (rest : List Char) : endLine ('\n' :: rest) = .ok rest := rfl

theorem readStatement_setting {setting : String × Written} (readable : IsReadable setting) (rest : List Char) :
    readStatement (renderSetting setting ++ rest) = .ok (definition setting, rest) := by
  have layout : renderSetting setting ++ rest =
      setting.1.toList ++ (" = ".toList ++ (setting.2.render ++ '\n' :: rest)) := by
    rw [renderSetting, List.append_assoc, List.append_assoc, List.append_assoc]
    rfl
  have key : readKey (setting.1.toList ++ (" = ".toList ++ (setting.2.render ++ '\n' :: rest))) =
      .ok (⟨[], setting.1⟩, "= ".toList ++ (setting.2.render ++ '\n' :: rest)) :=
    readKey_bare readable.key (Text.forall_mem_head?_cons (by decide : isBare ' ' = false) _) (by rintro ⟨⟩)
  have value : readValue deepest (skipBlanks (" ".toList ++ (setting.2.render ++ '\n' :: rest))) =
      .ok (setting.2.toValue, '\n' :: rest) := by
    rw [← readValue_render readable.value rest]
    exact congrArg (readValue deepest) (skipBlanks_render setting.2 _)
  have assignment : readAssignment (readValue deepest)
      (setting.1.toList ++ (" = ".toList ++ (setting.2.render ++ '\n' :: rest))) =
        .ok ((⟨[], setting.1⟩, setting.2.toValue), '\n' :: rest) := by
    have sign : expect ['='] ("= ".toList ++ (setting.2.render ++ '\n' :: rest)) =
        .ok (" ".toList ++ (setting.2.render ++ '\n' :: rest)) := rfl
    rw [readAssignment, key]
    simp only [bind, Except.bind, sign, value]
    rfl
  obtain ⟨first, later, written, bare⟩ := readable.key.exists_cons
  rw [layout]
  rw [written, List.cons_append] at assignment ⊢
  rw [readStatement, assignment]
  · rfl
  all_goals
    intro _ same
    exact Text.ne_of_holds bare (by decide) (List.cons.inj same).1

theorem readStatement_header {name : String} (bareName : IsBareName name) (rest : List Char) :
    readStatement ('[' :: name.toList ++ "]\n".toList ++ rest) = .ok (.opens ⟨[], name⟩, rest) := by
  have layout : '[' :: name.toList ++ "]\n".toList ++ rest = '[' :: (name.toList ++ ("]\n".toList ++ rest)) := by
    rw [List.append_assoc, List.cons_append]
  have key : readKey (name.toList ++ ("]\n".toList ++ rest)) = .ok (⟨[], name⟩, "]\n".toList ++ rest) :=
    readKey_bare bareName (Text.forall_mem_head?_cons (by decide : isBare ']' = false) _) (by rintro ⟨⟩)
  have bracket : expect [']'] ("]\n".toList ++ rest) = .ok ('\n' :: rest) := rfl
  obtain ⟨first, later, written, bare⟩ := bareName.exists_cons
  have solid : isBlank first = false := isBlank_eq_false bare (by decide) (by decide)
  have start : skipBlanks (name.toList ++ ("]\n".toList ++ rest)) = name.toList ++ ("]\n".toList ++ rest) := by
    rw [written]
    exact skipBlanks_of_head? (Text.forall_mem_head?_cons solid _)
  rw [layout, readStatement, start, key]
  · simp only [bind, Except.bind, bracket, endLine_newline]
    rfl
  · rw [written]
    rintro _ ⟨⟩
    exact absurd bare (by decide)

/-! ## Documents -/

theorem readStatements_cons {most : Nat} {text start : List Char} {statement : Statement}
    {statements : List Statement} (space : skipSpace false text = .ok start) (some : start ≠ [])
    (first : readStatement start = .ok (statement, rest)) (later : readStatements most rest = .ok statements) :
    readStatements (most + 1) text = .ok (statement :: statements) := by
  obtain ⟨character, text, rfl⟩ := List.exists_cons_of_ne_nil some
  rw [readStatements, space]
  simp only [bind, Except.bind, first, later]
  rfl

theorem readStatements_newline {most : Nat} {text : List Char} {statements : List Statement}
    (read : readStatements most text = .ok statements) : readStatements most ('\n' :: text) = .ok statements := by
  cases most with
  | zero => contradiction
  | succ most => exact read

/-- The statements of a section. -/
def Section.statements (part : Section) : List Statement :=
  .opens ⟨[], part.name⟩ :: part.settings.map definition

/-- A section that can be written and read. -/
structure Section.IsReadable (part : Section) : Prop where
  name : IsBareName part.name
  settings : ∀ setting ∈ part.settings, Toml.IsReadable setting

theorem skipSpace_bare {name : String} (bareName : IsBareName name) (rest : List Char) :
    skipSpace false (name.toList ++ rest) = .ok (name.toList ++ rest) := by
  obtain ⟨first, later, written, bare⟩ := bareName.exists_cons
  have solid : isBlank first = false := isBlank_eq_false bare (by decide) (by decide)
  rw [written, List.cons_append, skipSpace, solid, if_neg Bool.false_ne_true,
    if_neg (Text.ne_of_holds bare (by decide))]
  · exact Text.ne_of_holds bare (by decide)
  · intro _ same
    exact absurd same (Text.ne_of_holds bare (by decide))

theorem readStatements_settings {settings : List (String × Written)} {most : Nat} {later : List Statement}
    (readable : ∀ setting ∈ settings, IsReadable setting) (tail : readStatements most rest = .ok later) :
    readStatements (settings.length + most) (settings.flatMap renderSetting ++ rest) =
      .ok (settings.map definition ++ later) := by
  induction settings with
  | nil =>
      rw [List.length_nil, Nat.zero_add]
      exact tail
  | cons setting settings induction =>
      obtain ⟨here, others⟩ := List.forall_mem_cons.mp readable
      have layout : renderSetting setting ++ (settings.flatMap renderSetting ++ rest) =
          setting.1.toList ++ (" = ".toList ++ setting.2.render ++ ['\n'] ++
            (settings.flatMap renderSetting ++ rest)) := by
        simp only [renderSetting, List.append_assoc]
      have space : skipSpace false (renderSetting setting ++ (settings.flatMap renderSetting ++ rest)) =
          .ok (renderSetting setting ++ (settings.flatMap renderSetting ++ rest)) := by
        rw [layout]
        exact skipSpace_bare here.key _
      have some : renderSetting setting ++ (settings.flatMap renderSetting ++ rest) ≠ [] := by
        rw [layout]
        exact List.append_ne_nil_of_left_ne_nil here.key.ne_nil _
      rw [List.flatMap_cons, List.append_assoc, List.length_cons, Nat.add_right_comm]
      exact readStatements_cons space some (readStatement_setting here _) (induction others)

theorem readStatements_section {part : Section} {most : Nat} {later : List Statement}
    (readable : part.IsReadable) (tail : readStatements most rest = .ok later) :
    readStatements (part.statements.length + most) (part.render ++ rest) = .ok (part.statements ++ later) := by
  have settings := readStatements_settings readable.settings tail
  rw [Section.statements, List.length_cons, List.length_map, Nat.add_right_comm, Section.render,
    List.append_assoc]
  have space : skipSpace false ('[' :: part.name.toList ++ "]\n".toList ++
      (part.settings.flatMap renderSetting ++ rest)) =
        .ok ('[' :: part.name.toList ++ "]\n".toList ++ (part.settings.flatMap renderSetting ++ rest)) := rfl
  exact readStatements_cons space (List.cons_ne_nil _ _) (readStatement_header readable.name _) settings

/-- A document is read back statement by statement. -/
theorem readStatements_render {parts : List Section} (readable : ∀ part ∈ parts, part.IsReadable)
    (extra : Nat) :
    readStatements ((parts.flatMap Section.statements).length + extra + 1) (render parts) =
      .ok (parts.flatMap Section.statements) := by
  induction parts with
  | nil => rfl
  | cons part parts induction =>
      obtain ⟨here, later⟩ := List.forall_mem_cons.mp readable
      have count : ((part :: parts).flatMap Section.statements).length + extra + 1 =
          part.statements.length + ((parts.flatMap Section.statements).length + extra + 1) := by
        rw [List.flatMap_cons, List.length_append]
        omega
      rw [count, List.flatMap_cons]
      cases parts with
      | nil =>
          have read := readStatements_section here (induction later)
          rwa [render, List.append_nil] at read
      | cons next parts =>
          exact readStatements_section here (readStatements_newline (induction later))

theorem renderSetting_ne_nil (setting : String × Written) : renderSetting setting ≠ [] :=
  List.append_ne_nil_of_right_ne_nil _ (List.cons_ne_nil _ _)

/-- A document has no more statements than characters. -/
theorem length_statements_le (parts : List Section) :
    (parts.flatMap Section.statements).length ≤ (render parts).length := by
  have single (part : Section) : part.statements.length ≤ part.render.length := by
    have settings := length_le_length_flatMap renderSetting part.settings fun setting _ =>
      renderSetting_ne_nil setting
    rw [Section.statements, Section.render, List.length_cons, List.length_map, List.length_append,
      List.length_append, List.length_cons]
    omega
  induction parts with
  | nil => exact Nat.le_refl 0
  | cons part parts induction =>
      have here := single part
      rw [List.flatMap_cons, List.length_append]
      cases parts with
      | nil => exact here
      | cons next parts =>
          rw [render, List.length_append, List.length_cons]
          · omega
          · exact fun same => nomatch same

theorem statements_render {parts : List Section} (readable : ∀ part ∈ parts, part.IsReadable) :
    statements (render parts) = .ok (parts.flatMap Section.statements) := by
  obtain ⟨extra, length_eq⟩ := Nat.exists_eq_add_of_le (length_statements_le parts)
  have read := readStatements_render readable extra
  rw [← length_eq] at read
  match parts with
  | [] => rfl
  | [part] => exact read
  | part :: next :: parts => exact read

end RoguePilot.Toml
