import Mathlib
import VersionedStore.Number.Binary64
import VersionedStore.Proofs.Number.Decimal

/-!
Which decimals are held by the format binary64 without rounding. A decimal whose
value is that of some number of the format is read as a number of that value, so
an integer of no more than 53 bits is never changed.
-/

namespace VersionedStore

open Number

theorem Number.cast_signed (negative : Bool) (n : ℕ) :
    (signed negative n : ℚ) = (if negative then -1 else 1) * n := by
  cases negative <;> simp [signed]

theorem Number.abs_signed (negative : Bool) (n : ℕ) : |(signed negative n : ℚ)| = n := by
  cases negative <;> simp [signed]

def Decimal.value (d : Decimal) : ℚ := signed d.negative d.mantissa * 10 ^ d.exponent

namespace Binary64

def value? : Binary64 → Option ℚ
  | .finite negative units _ => some (signed negative units / one)
  | _ => none

def Held (q : ℚ) : Prop := ∃ x : Binary64, x.value? = some q

theorem one_pos : 0 < one := by decide +kernel

/-- Rounding looks at the quotient, not at the numbers that it is made of. -/
theorem roundHalfEven_mul_right (num den : ℕ) {c : ℕ} (hc : 0 < c) :
    roundHalfEven (num * c) (den * c) = roundHalfEven num den := by
  have hlow : 2 * (num % den * c) < den * c ↔ 2 * (num % den) < den := by
    rw [← Nat.mul_assoc, Nat.mul_lt_mul_right hc]
  have hhigh : den * c < 2 * (num % den * c) ↔ den < 2 * (num % den) := by
    rw [← Nat.mul_assoc, Nat.mul_lt_mul_right hc]
  simp only [roundHalfEven, Nat.mul_div_mul_right _ _ hc, Nat.mul_mod_mul_right, hlow, hhigh]

theorem roundHalfEven_one (n : ℕ) : roundHalfEven n 1 = n := by
  simp [roundHalfEven, Nat.mod_one]

/-- A quotient that is a whole number of units is rounded like that number. -/
theorem roundUnits_mul_right (units : ℕ) {den : ℕ} (hden : 0 < den) :
    roundUnits (units * den) den = roundUnits units 1 := by
  have hscale : den * Nat.pow 2 (excess units) = 1 * Nat.pow 2 (excess units) * den := by
    rw [Nat.one_mul, Nat.mul_comm]
  simp only [roundUnits, Nat.mul_div_cancel _ hden, Nat.div_one]
  rw [hscale, roundHalfEven_mul_right _ _ hden]

/-- A quotient that the format holds is not rounded. -/
theorem ofUnits_of_fits (negative : Bool) {units den : ℕ} (hden : 0 < den) (h : Fits units) :
    ofUnits negative (units * den) den = .finite negative units h := by
  have hround : roundUnits (units * den) den = units := by
    rw [roundUnits_mul_right units hden, h.2]
  simp only [ofUnits, hround, dif_pos h]

section OfDecimal

variable {d : Decimal} {units : ℕ}

/-- A number of units in the range of the format stands for no decimal with a high
exponent. -/
theorem exponent_le_of_units (hunits : (units : ℚ) = d.mantissa * 10 ^ d.exponent * one)
    (hfits : Fits units) (hmantissa : d.mantissa ≠ 0) : d.exponent ≤ 400 := by
  by_contra hlarge
  have hone : (0 : ℚ) ≤ one := Nat.cast_nonneg one
  have hmantissa' : (1 : ℚ) ≤ d.mantissa := by exact_mod_cast Nat.pos_of_ne_zero hmantissa
  have hpow : (10 : ℚ) ^ ((401 : ℕ) : ℤ) ≤ 10 ^ d.exponent :=
    zpow_le_zpow_right₀ (by norm_num) (by push_cast; omega)
  have hle : ((10 ^ 401 * one : ℕ) : ℚ) ≤ units := by
    calc ((10 ^ 401 * one : ℕ) : ℚ) = 10 ^ ((401 : ℕ) : ℤ) * one := by
          rw [Nat.cast_mul, Nat.cast_pow, zpow_natCast, Nat.cast_ofNat]
      _ ≤ 10 ^ d.exponent * one := mul_le_mul_of_nonneg_right hpow hone
      _ ≤ d.mantissa * 10 ^ d.exponent * one :=
          mul_le_mul_of_nonneg_right (le_mul_of_one_le_left (by positivity) hmantissa') hone
      _ = units := hunits.symm
  have hrange : Nat.pow 2 2098 ≤ 10 ^ 401 * one := by decide +kernel
  exact Nat.not_lt.mpr (hrange.trans (Nat.cast_le.mp hle)) hfits.1

/-- No decimal above zero that some number of units stands for has a low exponent. -/
theorem le_exponent_of_units (hunits : (units : ℚ) = d.mantissa * 10 ^ d.exponent * one)
    (hmantissa : d.mantissa ≠ 0) : -((d.mantissa.log2 + 400 : ℕ) : ℤ) ≤ d.exponent := by
  by_contra hsmall
  -- The two large constants become variables, so that no step below computes with them.
  obtain ⟨b, hb⟩ : ∃ b : ℕ, b = 401 := ⟨_, rfl⟩
  have hconst : 2 * one < 10 ^ b := hb ▸ by decide +kernel
  have hone : 0 < one := one_pos
  generalize one = u at hunits hone hconst
  generalize hk : d.mantissa.log2 = k at hsmall
  have hlog : d.mantissa < 2 ^ (k + 1) := hk ▸ Nat.lt_log2_self
  have hpos : (0 : ℚ) < units := by
    rw [hunits]
    have hmantissa' : (0 : ℚ) < d.mantissa := by exact_mod_cast Nat.pos_of_ne_zero hmantissa
    have hone' : (0 : ℚ) < u := by exact_mod_cast hone
    positivity
  have hunits' : (1 : ℚ) ≤ units := by exact_mod_cast hpos
  have hpow : (10 : ℚ) ^ d.exponent * 10 ^ (k + b) ≤ 1 := by
    rw [← zpow_natCast, ← zpow_add₀ (by norm_num)]
    exact zpow_le_one_of_nonpos₀ (by norm_num) (by push_cast; omega)
  have hle : ((10 ^ (k + b) : ℕ) : ℚ) ≤ (d.mantissa * u : ℕ) := by
    calc ((10 ^ (k + b) : ℕ) : ℚ) = 1 * 10 ^ (k + b) := by
          rw [one_mul, Nat.cast_pow, Nat.cast_ofNat]
      _ ≤ units * 10 ^ (k + b) := mul_le_mul_of_nonneg_right hunits' (by positivity)
      _ = d.mantissa * u * (10 ^ d.exponent * 10 ^ (k + b)) := by
          rw [hunits, mul_right_comm _ _ (u : ℚ), mul_assoc]
      _ ≤ d.mantissa * u * 1 := mul_le_mul_of_nonneg_left hpow (by positivity)
      _ = (d.mantissa * u : ℕ) := by rw [mul_one, Nat.cast_mul]
  have hlt : d.mantissa * u < 10 ^ (k + b) := by
    rw [Nat.pow_add]
    generalize 10 ^ b = c at hconst ⊢
    calc d.mantissa * u ≤ 2 ^ (k + 1) * u := Nat.mul_le_mul_right u hlog.le
      _ = 2 ^ k * (2 * u) := by rw [Nat.pow_succ, Nat.mul_assoc]
      _ < 2 ^ k * c := (Nat.mul_lt_mul_left (Nat.two_pow_pos k)).mpr hconst
      _ ≤ 10 ^ k * c := Nat.mul_le_mul_right c (Nat.pow_le_pow_left (by decide) k)
  exact Nat.not_lt.mpr (Nat.cast_le.mp hle) hlt

/-- A decimal is read as the number that stands for it, if there is one. -/
theorem ofDecimal_of_units (hunits : (units : ℚ) = d.mantissa * 10 ^ d.exponent * one)
    (hfits : Fits units) : ofDecimal d = .finite d.negative units hfits := by
  unfold ofDecimal
  split_ifs with hzero hlarge hsmall
  · obtain rfl : units = 0 := by
      rw [hzero, Nat.cast_zero, zero_mul, zero_mul] at hunits
      exact Nat.cast_eq_zero.mp hunits
    exact ofUnits_of_fits d.negative Nat.one_pos hfits
  · exact absurd (exponent_le_of_units hunits hfits hzero) (by omega)
  · exact absurd (le_exponent_of_units hunits hzero) (by omega)
  · cases hexponent : d.exponent with
    | ofNat e =>
      have hexact : ∀ u : ℕ, (units : ℚ) = d.mantissa * 10 ^ Int.ofNat e * u →
          units * 1 = d.mantissa * Nat.pow 10 e * u := by
        intro u h
        rw [Int.ofNat_eq_natCast, zpow_natCast] at h
        rw [Nat.mul_one]
        exact_mod_cast h
      rw [hexponent] at hunits
      dsimp only
      rw [← hexact one hunits]
      exact ofUnits_of_fits d.negative Nat.one_pos hfits
    | negSucc e =>
      have hexact : ∀ u : ℕ, (units : ℚ) = d.mantissa * 10 ^ Int.negSucc e * u →
          units * Nat.pow 10 (e + 1) = d.mantissa * u := by
        intro u h
        rw [zpow_negSucc] at h
        field_simp at h
        exact_mod_cast h
      rw [hexponent] at hunits
      dsimp only
      rw [← hexact one hunits]
      exact ofUnits_of_fits d.negative (Nat.pow_pos (by decide)) hfits

end OfDecimal

/-- The number of units is read off a number that has the value of a decimal. -/
theorem units_of_value {d : Decimal} {negative : Bool} {units u : ℕ} (hu : 0 < u)
    (h : (signed negative units : ℚ) / u = d.value) :
    (units : ℚ) = d.mantissa * 10 ^ d.exponent * u := by
  have hu' : (0 : ℚ) < u := by exact_mod_cast hu
  have hpow : (0 : ℚ) < 10 ^ d.exponent := by positivity
  have habs := congrArg abs h
  rw [Decimal.value, abs_div, abs_mul, abs_signed, abs_signed, abs_of_pos hu',
    abs_of_pos hpow] at habs
  exact (div_eq_iff hu'.ne').mp habs

theorem value_of_units {d : Decimal} {units u : ℕ} (hu : 0 < u)
    (h : (units : ℚ) = d.mantissa * 10 ^ d.exponent * u) :
    (signed d.negative units : ℚ) / u = d.value := by
  have hu' : (u : ℚ) ≠ 0 := by exact_mod_cast hu.ne'
  rw [div_eq_iff hu', cast_signed, h, Decimal.value, cast_signed]
  ring

/-- A decimal whose value is held is read as a number of this value. -/
theorem value?_ofDecimal {d : Decimal} (h : Held d.value) :
    (ofDecimal d).value? = some d.value := by
  obtain ⟨x, hx⟩ := h
  cases x with
  | finite negative units fits =>
    have hunits := units_of_value one_pos (Option.some.inj hx)
    rw [ofDecimal_of_units hunits fits, value?, value_of_units one_pos hunits]
  | _ => cases hx

/-- A number of units is not rounded if the bits that a significand cannot hold are
all zero. -/
theorem roundUnits_of_dvd {units : ℕ} (h : 2 ^ excess units ∣ units) :
    roundUnits units 1 = units := by
  obtain ⟨m, hm⟩ := h
  have hround : roundHalfEven (m * 2 ^ excess units) (1 * 2 ^ excess units) = m := by
    rw [roundHalfEven_mul_right _ _ (Nat.pow_pos (by decide)), roundHalfEven_one]
  rw [Nat.mul_comm] at hm
  rw [← hm] at hround
  change roundHalfEven units (1 * 2 ^ excess (units / 1)) * 2 ^ excess (units / 1) = units
  rw [Nat.div_one, hround, ← hm]

theorem excess_le {units k : ℕ} (h : units < 2 ^ (k + 53)) : excess units ≤ k := by
  by_cases hzero : units = 0
  · subst hzero
    exact Nat.zero_le k
  · have hlog := (Nat.log2_lt hzero).mpr h
    unfold excess
    omega

/-- Bits that are zero anyway are lost without harm. -/
theorem roundUnits_of_pow_dvd {units k : ℕ} (hunits : units < 2 ^ (k + 53))
    (hdvd : 2 ^ k ∣ units) : roundUnits units 1 = units :=
  roundUnits_of_dvd ((Nat.pow_dvd_pow 2 (excess_le hunits)).trans hdvd)

/-- Whole numbers of 53 bits fit the format, and so does the next one. -/
theorem fits_mul_one {m : ℕ} (hm : m ≤ 2 ^ 53) : Fits (m * one) := by
  rcases Nat.lt_or_eq_of_le hm with hlt | rfl
  · have hone : 2 ^ 53 * one ≤ 2 ^ (1074 + 53) := by decide +kernel
    have hrange : 2 ^ (1074 + 53) < Nat.pow 2 2098 := by decide +kernel
    have hdvd : 2 ^ 1074 ∣ one := by decide +kernel
    have hlow : m * one < 2 ^ (1074 + 53) :=
      ((Nat.mul_lt_mul_right one_pos).mpr hlt).trans_le hone
    exact ⟨hlow.trans hrange, roundUnits_of_pow_dvd hlow (Nat.dvd_mul_left_of_dvd hdvd m)⟩
  · decide +kernel

/-- All integers of up to 53 bits are held exactly. -/
theorem held_of_natAbs_le {n : ℤ} (hn : n.natAbs ≤ 2 ^ 53) : Held n := by
  refine ⟨.finite (decide (n < 0)) (n.natAbs * one) (fits_mul_one hn), ?_⟩
  have hone : (one : ℚ) ≠ 0 := by exact_mod_cast one_pos.ne'
  rw [value?, cast_signed, Nat.cast_mul, ← mul_assoc, ← cast_signed, signed_natAbs,
    mul_div_cancel_right₀ _ hone]

end Binary64

end VersionedStore
