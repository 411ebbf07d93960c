import Mathlib
import FormLogic.Number.Layout
import FormLogic.Text.Blank

/-!
# FormLogic.Proofs.Number.Digits

Runs of decimal digits.

* `toNat_of_isDigit`: what a digit is, and so what it is not: a letter or a blank;
* `spanDigits_append`: a run of digits ends where no digit follows;
* `natOfDigits_toDigits`: a number is read back from its digits, also with zeros around them.
-/

namespace FormLogic
namespace Number

open Text

variable {c : Char} {digits : List Char}

theorem toNat_of_isDigit (h : c.isDigit = true) : 48 ≤ c.toNat ∧ c.toNat ≤ 57 := by
  simpa [Char.isDigit, UInt32.le_iff_toNat_le] using h

theorem isAlpha_of_isDigit (h : c.isDigit = true) : c.isAlpha = false := by
  have hc := toNat_of_isDigit h
  simp only [Char.isAlpha, Char.isUpper, Char.isLower, ge_iff_le, UInt32.le_iff_toNat_le,
    Bool.or_eq_false_iff, Bool.and_eq_false_iff, decide_eq_false_iff_not]
  change ¬(65 ≤ c.toNat ∧ _) ∧ (¬97 ≤ c.toNat ∨ _)
  omega

/-- A digit is a character of its own in either case. -/
theorem toLower_of_isDigit (h : c.isDigit = true) : c.toLower = c := by
  refine Char.toLower_eq_of_not_isUpper fun hupper => ?_
  have halpha := isAlpha_of_isDigit h
  rw [Char.isAlpha, hupper] at halpha
  cases halpha

theorem isBlank_of_isDigit (h : c.isDigit = true) : isBlank c = false := by
  have hc := toNat_of_isDigit h
  simp only [isBlank, Bool.or_eq_false_iff, Bool.and_eq_false_iff, decide_eq_false_iff_not,
    beq_eq_false_iff_ne]
  omega

theorem spanDigits_append (rest : List Char) (hdigits : ∀ c ∈ digits, c.isDigit = true)
    (hrest : ∀ c ∈ rest.head?, c.isDigit = false) :
    spanDigits (digits ++ rest) = (digits, rest) := by
  rw [spanDigits, List.takeWhile_append_of_pos hdigits, List.dropWhile_append_of_pos hdigits]
  cases rest with
  | nil => simp
  | cons c rest => simp [hrest c rfl]

theorem isDigit_of_mem_zeros {n : Nat} (h : c ∈ zeros n) : c.isDigit = true := by
  rw [List.eq_of_mem_replicate h]; rfl

theorem isDigit_of_mem_toDigits {n : Nat} (h : c ∈ Nat.toDigits 10 n) :
    c.isDigit = true :=
  Nat.isDigit_of_mem_toDigits (by decide) (by decide) h

theorem natOfDigits_append_zeros (digits : List Char) (n : Nat) :
    natOfDigits (digits ++ zeros n) = natOfDigits digits * 10 ^ n := by
  rw [natOfDigits, Nat.ofDigitChars_append, zeros, Nat.ofDigitChars_replicate_zero, Nat.mul_comm]
  rfl

theorem natOfDigits_zeros_append (n : Nat) (digits : List Char) :
    natOfDigits (zeros n ++ digits) = natOfDigits digits := by
  rw [natOfDigits, Nat.ofDigitChars_append, zeros, Nat.ofDigitChars_replicate_zero, Nat.mul_zero]
  rfl

theorem natOfDigits_toDigits (n : Nat) : natOfDigits (Nat.toDigits 10 n) = n :=
  Nat.ofDigitChars_ten_toDigits

end Number
end FormLogic
