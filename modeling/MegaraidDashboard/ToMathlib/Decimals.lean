import Mathlib.Data.List.Basic
import Mathlib.Data.Nat.Notation

/-! # Numbers as decimal texts -/

namespace Nat

theorem toList_toString (n : ℕ) : (toString n).toList = toDigits 10 n := by
  rw [toString_eq_ofList_toDigits, String.toList_ofList]

/-- A decimal text names one number. -/
theorem toString_injective {m n : ℕ} (same : toString m = toString n) : m = n := by
  have digits := congrArg String.toList same
  rw [toList_toString, toList_toString] at digits
  have value := congrArg (ofDigitChars 10 · 0) digits
  simpa only [ofDigitChars_ten_toDigits] using value

/-- Only digits stand in a decimal text. -/
theorem isDigit_of_mem_toString {n : ℕ} {c : Char} (member : c ∈ (toString n).toList) : c.isDigit = true := by
  rw [toList_toString] at member
  exact isDigit_of_mem_toDigits (by decide) (by decide) member

theorem notMem_toString {c : Char} (other : c.isDigit = false) (n : ℕ) : c ∉ (toString n).toList := by
  intro member
  rw [isDigit_of_mem_toString member] at other
  cases other

theorem toString_toList_ne_nil (n : ℕ) : (toString n).toList ≠ [] := by
  rw [toList_toString]
  exact toDigits_ne_nil

end Nat
