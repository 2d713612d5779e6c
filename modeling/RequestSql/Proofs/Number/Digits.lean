import Mathlib.Algebra.Group.Nat.Defs
import RequestSql.Number.Layout

/-!
# Digits

What decimal digits say: a natural is what its digits say, digits behind others count less by
a power of ten for each of them, and zeros say nothing.

Key theorems: `digitsValue_toDigits`, `digitsValue_append`, `digitsValue_zeros`.
-/

namespace RequestSql

theorem digitsValue_eq (digits : List Char) :
    digitsValue digits = Nat.ofDigitChars 10 digits 0 := by
  rw [digitsValue, ← Nat.ofDigitChars_eq_foldl]

/-- The digits of a natural read back to it. -/
theorem digitsValue_toDigits (n : Nat) : digitsValue (Nat.toDigits 10 n) = n := by
  rw [digitsValue_eq, Nat.ofDigitChars_ten_toDigits]

theorem digitsValue_append (as bs : List Char) :
    digitsValue (as ++ bs) = digitsValue as * 10 ^ bs.length + digitsValue bs := by
  rw [digitsValue_eq, digitsValue_eq, digitsValue_eq, Nat.ofDigitChars_append,
    Nat.ofDigitChars_eq_ofDigitChars_zero, Nat.mul_comm]

theorem digitsValue_zeros (n : Nat) : digitsValue (NumberLayout.zeros n) = 0 := by
  rw [digitsValue_eq, NumberLayout.zeros, Nat.ofDigitChars_replicate_zero, Nat.mul_zero]

theorem isDigit_of_mem_zeros {n : Nat} {c : Char} (h : c ∈ NumberLayout.zeros n) :
    c.isDigit = true := by
  rw [(List.mem_replicate.1 h).2]
  rfl

end RequestSql
