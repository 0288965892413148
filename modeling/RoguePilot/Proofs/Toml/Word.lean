import RoguePilot.Proofs.Number.Numeral
import RoguePilot.Proofs.Text.Search
import RoguePilot.Toml.Word

/-!
# Numerals are read back

A decimal numeral is a word, and neither a truth value nor a date or time, so it is read as the integer it
was written for, if that fits into sixty-four bits.
-/

namespace RoguePilot.Toml

/-! ## Neither dates nor times -/

namespace Moment

variable {text rest : List Char}

theorem mem_of_after? {expected : Char} (found : after? expected text = some rest) : expected ∈ text := by
  cases text with
  | nil => cases found
  | cons character text =>
      rw [after?] at found
      split at found
      · next same => exact same ▸ List.mem_cons_self
      · cases found

theorem mem_of_mem_number? {digits least greatest value : Nat}
    (found : number? digits least greatest text = some (value, rest)) {character : Char}
    (member : character ∈ rest) : character ∈ text := by
  rw [number?] at found
  split at found
  · obtain ⟨_, _, same⟩ := Option.map_eq_some_iff.mp found
    obtain rfl : text.drop digits = rest := congrArg Prod.snd same
    exact List.mem_of_mem_drop member
  · cases found

/-- A date has a hyphen behind its year. -/
theorem date?_eq_none (plain : '-' ∉ text) : date? text = none := by
  rw [Option.eq_none_iff_forall_ne_some]
  intro rest found
  rw [date?, Option.bind_eq_bind, Option.bind_eq_some_iff] at found
  obtain ⟨year, year_read, found⟩ := found
  obtain ⟨_, hyphen, _⟩ := Option.bind_eq_some_iff.mp found
  exact plain (mem_of_mem_number? year_read (mem_of_after? hyphen))

/-- A time has a colon behind its hour. -/
theorem time?_eq_none (plain : ':' ∉ text) : time? text = none := by
  rw [Option.eq_none_iff_forall_ne_some]
  intro rest found
  rw [time?, Option.bind_eq_bind, Option.bind_eq_some_iff] at found
  obtain ⟨hour, hour_read, found⟩ := found
  obtain ⟨_, colon, _⟩ := Option.bind_eq_some_iff.mp found
  exact plain (mem_of_mem_number? hour_read (mem_of_after? colon))

theorem isMoment_eq_false (no_hyphen : '-' ∉ text) (no_colon : ':' ∉ text) : isMoment text = false := by
  rw [isMoment, isDate, isTime, isDateTime, date?_eq_none no_hyphen, time?_eq_none no_colon]
  rfl

end Moment

/-! ## Integers -/

namespace Word

variable {number : Nat} {rest : List Char}

theorem extend?_digits {digits : List Char} (all : ∀ character ∈ digits, character.isDigit = true)
    (value : Nat) : extend? 10 true value digits = some (Nat.ofDigitChars 10 digits value) := by
  induction digits generalizing value with
  | nil => rfl
  | cons character digits induction =>
      obtain ⟨here, later⟩ := List.forall_mem_cons.mp all
      have not_underscore : character ≠ '_' := by
        rintro rfl
        contradiction
      rw [extend?, if_neg not_underscore, Numeral.digit?_of_isDigit here, Nat.mul_comm]
      exact induction later _

theorem digits?_digits {digits : List Char} (nonempty : digits ≠ [])
    (all : ∀ character ∈ digits, character.isDigit = true) :
    digits? 10 digits = some (Nat.ofDigitChars 10 digits 0) := by
  obtain ⟨character, digits, rfl⟩ := List.exists_cons_of_ne_nil nonempty
  obtain ⟨here, later⟩ := List.forall_mem_cons.mp all
  have not_underscore : character ≠ '_' := by
    rintro rfl
    contradiction
  rw [digits?, extend?, if_neg not_underscore, Numeral.digit?_of_isDigit here]
  exact extend?_digits later _

theorem ne_of_mem_decimal {character excluded : Char} (member : character ∈ Numeral.decimal number)
    (excludes : excluded.isDigit = false) : character ≠ excluded := by
  rintro rfl
  rw [Numeral.isDigit_of_mem_decimal member] at excludes
  contradiction

theorem whole?_decimal (number : Nat) : whole? (Numeral.decimal number) = some number := by
  rw [whole?.eq_def]
  split
  · next second later written =>
    rcases Nat.eq_zero_or_pos number with rfl | positive
    · have zero : Numeral.decimal 0 = ['0'] := by decide
      rw [zero] at written
      cases written
    · exact absurd (congrArg List.head? written) (Numeral.head?_decimal positive)
  · rw [digits?_digits (Numeral.decimal_ne_nil number) fun _ => Numeral.isDigit_of_mem_decimal,
      Numeral.ofDigitChars_decimal]

theorem unsigned_decimal (number : Nat) :
    unsigned (Numeral.decimal number) = (false, Numeral.decimal number) := by
  rw [unsigned.eq_def]
  split
  · next written =>
    exact absurd rfl (ne_of_mem_decimal (written ▸ List.mem_cons_self) (by decide : '-'.isDigit = false))
  · next written =>
    exact absurd rfl (ne_of_mem_decimal (written ▸ List.mem_cons_self) (by decide : '+'.isDigit = false))
  · rfl

theorem integer?_decimal (number : Nat) : integer? (Numeral.decimal number) = some (number : Int) := by
  have second {letter : Char} {later : List Char} (written : Numeral.decimal number = '0' :: letter :: later)
      (not_digit : letter.isDigit = false) : False :=
    ne_of_mem_decimal (written ▸ List.mem_cons_of_mem _ List.mem_cons_self) not_digit rfl
  rw [integer?.eq_def]
  split
  · next written => exact (second written (by decide)).elim
  · next written => exact (second written (by decide)).elim
  · next written => exact (second written (by decide)).elim
  · rw [unsigned_decimal]
    change (whole? (Numeral.decimal number)).map (fun value => (value : Int)) = _
    rw [whole?_decimal]
    rfl

theorem value_decimal (fitting : fits number = true) :
    value (Numeral.decimal number) = .ok (.integer number) := by
  have not_word {word : List Char} {first : Char} (begins : word.head? = some first)
      (not_digit : first.isDigit = false) : Numeral.decimal number ≠ word := by
    rintro rfl
    exact ne_of_mem_decimal (List.mem_of_head? begins) not_digit rfl
  have not_moment : Moment.isMoment (Numeral.decimal number) = false :=
    Moment.isMoment_eq_false (fun member => ne_of_mem_decimal member (by decide) rfl)
      fun member => ne_of_mem_decimal member (by decide) rfl
  rw [value, if_neg (not_word rfl (by decide)), if_neg (not_word rfl (by decide)), not_moment,
    integer?_decimal]
  simp only [fitting, Bool.false_eq_true, if_false, if_true]

theorem belongs_of_mem_decimal : ∀ character ∈ Numeral.decimal number, belongs character = true := by
  intro character member
  simp only [belongs, Char.isAlphanum, Numeral.isDigit_of_mem_decimal member, Bool.or_true, Bool.true_or]

/-- A word ends where no blank and digit follow. -/
theorem split_of_head? {text : List Char} (solid : (text.dropWhile belongs).head? ≠ some ' ') :
    split text = (text.takeWhile belongs, text.dropWhile belongs) := by
  rw [split.eq_def]
  simp only
  split
  · next followed =>
    rw [followed] at solid
    exact absurd rfl solid
  · rfl

/-- A numeral is read up to the first character that belongs to no word. -/
theorem read_decimal (fitting : fits number = true)
    (stopped : ∀ character ∈ rest.head?, belongs character = false) (solid : rest.head? ≠ some ' ') :
    read (Numeral.decimal number ++ rest) = .ok (.integer number, rest) := by
  have split_eq : split (Numeral.decimal number ++ rest) = (Numeral.decimal number, rest) := by
    have rest_eq : (Numeral.decimal number ++ rest).dropWhile belongs = rest :=
      Text.dropWhile_append belongs_of_mem_decimal stopped
    rw [split_of_head? (rest_eq.symm ▸ solid), rest_eq, Text.takeWhile_append belongs_of_mem_decimal stopped]
  have some : (Numeral.decimal number).isEmpty = false :=
    List.isEmpty_eq_false_iff.mpr (Numeral.decimal_ne_nil number)
  rw [read, split_eq]
  simp only [some, value_decimal fitting, Bool.false_eq_true, if_false]
  rfl

end Word

end RoguePilot.Toml
