import Mathlib.Data.List.Basic
import RoguePilot.Number.Numeral

/-!
# Decimal numerals

A decimal numeral consists of digits only and is not empty; nothing else is read as one. As it is written it
begins with a zero only if it is that of zero, and is read back as the number it was written for.
-/

namespace RoguePilot.Numeral

/-! ## Digits -/

theorem digit?_of_isDigit {character : Char} (digit : character.isDigit = true) :
    digit? 10 character = some (character.toNat - '0'.toNat) := by
  have bounds : '0' ≤ character ∧ character ≤ '9' := by
    simpa [Char.isDigit, Char.le_def] using digit
  have small : character.toNat - '0'.toNat < 10 := by
    have upper : character.toNat ≤ '9'.toNat := bounds.2
    simp only [Char.reduceToNat] at upper ⊢
    omega
  simp only [digit?, if_pos bounds, Option.filter_some, decide_eq_true small, if_true]

theorem extend?_digits {digits : List Char}
    (all : ∀ character ∈ digits, character.isDigit = true) (value : Nat) :
    extend? 10 value digits = some (Nat.ofDigitChars 10 digits value) := by
  induction digits generalizing value with
  | nil => rfl
  | cons character digits induction =>
      obtain ⟨here, later⟩ := List.forall_mem_cons.mp all
      rw [extend?, digit?_of_isDigit here, Nat.mul_comm]
      exact induction later _

theorem value?_digits {digits : List Char} (nonempty : digits ≠ [])
    (all : ∀ character ∈ digits, character.isDigit = true) :
    value? 10 digits = some (Nat.ofDigitChars 10 digits 0) := by
  rw [value?, List.isEmpty_eq_false_iff.mpr nonempty]
  exact extend?_digits all 0

theorem isDigit_of_digit? {character : Char} {value : Nat} (found : digit? 10 character = some value) :
    character.isDigit = true := by
  obtain ⟨decoded, small⟩ := Option.filter_eq_some_iff.mp found
  rw [decide_eq_true_eq] at small
  split at decoded
  · next bounds => simpa [Char.isDigit, Char.le_def] using bounds
  -- The letters stand for greater numbers.
  · split at decoded
    · cases decoded
      omega
    · split at decoded
      · cases decoded
        omega
      · cases decoded

/-- Only digits are read as a decimal numeral. -/
theorem value?_eq_some_iff {digits : List Char} {value : Nat} :
    value? 10 digits = some value ↔
      digits ≠ [] ∧ (∀ character ∈ digits, character.isDigit = true) ∧
        Nat.ofDigitChars 10 digits 0 = value := by
  have all_of_extend? {digits : List Char} {known : Nat} (read : extend? 10 known digits = some value) :
      ∀ character ∈ digits, character.isDigit = true := by
    induction digits generalizing known with
    | nil => exact List.forall_mem_nil _
    | cons character digits induction =>
        rw [extend?] at read
        split at read
        · next here => exact List.forall_mem_cons.mpr ⟨isDigit_of_digit? here, induction read⟩
        · cases read
  constructor
  · intro read
    have nonempty : digits ≠ [] := by
      rintro rfl
      cases read
    have all : ∀ character ∈ digits, character.isDigit = true := by
      rw [value?, List.isEmpty_eq_false_iff.mpr nonempty] at read
      exact all_of_extend? read
    rw [value?_digits nonempty all, Option.some.injEq] at read
    exact ⟨nonempty, all, read⟩
  · rintro ⟨nonempty, all, rfl⟩
    exact value?_digits nonempty all

/-! ## Numerals as they are written -/

variable (number : Nat)

theorem decimal_eq_toDigits : decimal number = Nat.toDigits 10 number := by
  rw [decimal, Nat.toString_eq_ofList_toDigits, String.toList_ofList]

theorem decimal_ne_nil : decimal number ≠ [] := by
  rw [decimal_eq_toDigits]
  exact Nat.toDigits_ne_nil

theorem ofDigitChars_decimal : Nat.ofDigitChars 10 (decimal number) 0 = number := by
  rw [decimal_eq_toDigits, Nat.ofDigitChars_ten_toDigits]

variable {number}

theorem isDigit_of_mem_decimal {character : Char} (member : character ∈ decimal number) :
    character.isDigit = true := by
  rw [decimal_eq_toDigits] at member
  exact Nat.isDigit_of_mem_toDigits (by decide) (by decide) member

theorem value?_decimal : value? 10 (decimal number) = some number := by
  rw [value?_digits (decimal_ne_nil number) fun _ => isDigit_of_mem_decimal, ofDigitChars_decimal]

theorem decimalUpTo?_decimal {greatest : Nat} (bounded : number ≤ greatest) :
    decimalUpTo? greatest (decimal number) = some number := by
  rw [decimalUpTo?, value?_decimal, Option.filter_some, decide_eq_true bounded, if_pos rfl]

/-- Only the numeral of zero begins with a zero. -/
theorem head?_decimal (positive : 0 < number) : (decimal number).head? ≠ some '0' := by
  induction number using Nat.strongRecOn with
  | _ number induction =>
      rw [decimal_eq_toDigits]
      by_cases small : number < 10
      · have not_zero : ∀ digit < 10, 0 < digit → Nat.digitChar digit ≠ '0' := by decide
        rw [Nat.toDigits_of_lt_base small, List.head?_cons, ne_eq, Option.some.injEq]
        exact not_zero number small positive
      · have smaller := induction (number / 10) (by omega) (by omega)
        rw [decimal_eq_toDigits] at smaller
        rw [Nat.toDigits_of_base_le (by decide) (by omega),
          List.head?_append_of_ne_nil _ Nat.toDigits_ne_nil]
        exact smaller

end RoguePilot.Numeral
