import Mathlib.Data.Int.Notation
import Mathlib.Data.List.Basic
import VersionedStore.Number.Decimal

/-!
The decimal text of a natural number as a row of digits. The row denotes the
number, and it starts with zero only if it is zero itself.
-/

namespace VersionedStore.Number

def digitValue (c : Char) : ℕ := c.toNat - '0'.toNat

theorem ofDigits_map_digitValue (cs : List Char) :
    ofDigits (cs.map digitValue) = Nat.ofDigitChars 10 cs 0 := by
  rw [ofDigits, List.foldl_map, Nat.ofDigitChars_eq_foldl]
  rfl

theorem ofDigits_toDigits (n : ℕ) : ofDigits ((Nat.toDigits 10 n).map digitValue) = n := by
  rw [ofDigits_map_digitValue, Nat.ofDigitChars_ten_toDigits]

theorem digitChar_ne_zero : ∀ d, d < 10 → 0 < d → Nat.digitChar d ≠ '0' := by decide

/-- The first digit of a positive number is not zero. The induction drops the
last digit. -/
theorem head?_toDigits_ne_zero (n : ℕ) (hn : 0 < n) : (Nat.toDigits 10 n).head? ≠ some '0' := by
  induction n using Nat.strongRecOn with
  | ind n ih =>
    by_cases hsmall : n < 10
    · rw [Nat.toDigits_of_lt_base hsmall, List.head?_cons]
      exact fun h => digitChar_ne_zero n hsmall hn (Option.some.inj h)
    · rw [Nat.toDigits_of_base_le (by decide) (by omega),
        List.head?_append_of_ne_nil _ Nat.toDigits_ne_nil]
      exact ih (n / 10) (by omega) (by omega)

theorem eq_zero_of_digitValue {c : Char} (hc : c.isDigit = true) (hzero : digitValue c = 0) :
    c = '0' := by
  have hrange := Char.isDigit_iff_toNat.mp hc
  have hvalue : c.toNat - '0'.toNat = 0 := hzero
  apply Char.toNat_inj.mp
  omega

theorem ne_of_isDigit {c d : Char} (hc : c.isDigit = true) (hd : d.isDigit = false) : c ≠ d := by
  intro heq
  subst heq
  simp [hc] at hd

theorem toDigits_all_isDigit (n : ℕ) : ∀ c ∈ Nat.toDigits 10 n, c.isDigit = true :=
  fun _ hc => Nat.isDigit_of_mem_toDigits (by decide) (by decide) hc

theorem signed_false (n : ℕ) : signed false n = n := rfl

theorem signed_true (n : ℕ) : signed true n = -n := rfl

theorem signed_natAbs (n : ℤ) : signed (decide (n < 0)) n.natAbs = n := by
  unfold signed
  by_cases hn : n < 0
  · rw [if_pos (decide_eq_true hn)]
    omega
  · rw [if_neg (by simp only [decide_eq_true_eq]; exact hn)]
    omega

end VersionedStore.Number
