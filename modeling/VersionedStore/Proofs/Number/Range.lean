import VersionedStore.Proofs.Number.Rounding
import VersionedStore.Proofs.Retry.Delay

/-!
When a number that is not below zero leaves the range of the format. A product
with a power of two is exact up to the end of the range; a sum is rounded, so
that it gets just beyond the greatest number without becoming an infinity.
-/

namespace VersionedStore.Binary64

/-- A finite number that is not below zero, counted in units. -/
def Counts (x : Binary64) (units : ℕ) : Prop :=
  NotNegative x ∧ ∃ negative fits, x = .finite negative units fits

/-- What is left of a number of units: the units themselves or, beyond the range,
an infinity. -/
inductive Saturates (x : Binary64) (units : ℕ) : Prop where
  | counts (hsmall : units < overflow) (hx : x.Counts units)
  | infinite (hlarge : overflow ≤ units) (hx : x = .infinite false)

theorem overflow_le_range : overflow ≤ Nat.pow 2 2098 := by decide +kernel

section OfUnits

variable {negative : Bool} {num den : ℕ}

theorem counts_ofUnits (hsign : negative = true → num = 0)
    (hround : roundUnits num den < Nat.pow 2 2098) :
    (ofUnits negative num den).Counts (roundUnits num den) := by
  have hfits := (fits_roundUnits_iff num den).mpr hround
  exact ⟨notNegative_ofUnits den hsign, negative, hfits, by simp only [ofUnits, dif_pos hfits]⟩

/-- What is rounded beyond the range is an infinity. -/
theorem ofUnits_of_large (hsign : negative = true → num = 0)
    (hround : Nat.pow 2 2098 ≤ roundUnits num den) :
    ofUnits negative num den = .infinite false := by
  have hfits : ¬Fits (roundUnits num den) := fun h => Nat.not_lt.mpr hround h.1
  have hinfinite : ofUnits negative num den = .infinite negative := by
    simp only [ofUnits, dif_neg hfits]
  have hsame := notNegative_ofUnits den hsign
  rw [hinfinite, notNegative_infinite_iff] at hsame
  rw [hinfinite, hsame]

end OfUnits

/-- A whole number of units becomes what is left of it, if it is of the format
where it is in the range. -/
theorem saturates_ofUnits {negative : Bool} {units den : ℕ} (hden : 0 < den)
    (hsign : negative = true → units = 0) (hexact : units < Nat.pow 2 2098 → Fits units) :
    (ofUnits negative (units * den) den).Saturates units := by
  have hsign' : negative = true → units * den = 0 := fun hnegative => by
    rw [hsign hnegative, Nat.zero_mul]
  by_cases hsmall : units < Nat.pow 2 2098
  · have hfits := hexact hsmall
    have hround : roundUnits (units * den) den = units := by
      rw [roundUnits_mul_right units hden, hfits.2]
    have hcounts := counts_ofUnits hsign' (hround.trans_lt hsmall)
    rw [hround] at hcounts
    exact .counts hfits.lt_overflow hcounts
  · have hlarge : overflow ≤ units := overflow_le_range.trans (Nat.not_lt.mp hsmall)
    have hround : Nat.pow 2 2098 ≤ roundUnits (units * den) den := by
      rw [roundUnits_mul_right units hden, ← Nat.not_lt, roundUnits_lt_iff]
      exact Nat.not_lt.mpr hlarge
    exact .infinite hlarge (ofUnits_of_large hsign' hround)

theorem signed_eq {negative : Bool} {units : ℕ} {fits : Fits units}
    (hx : NotNegative (.finite negative units fits)) : Number.signed negative units = units := by
  cases negative with
  | false => rw [Number.signed_false]
  | true => simp [notNegative_finite_iff.mp hx rfl, Number.signed_true]

theorem counts_zero : zero.Counts 0 := ⟨notNegative_zero, false, fits_zero, rfl⟩

namespace Counts

variable {x y : Binary64} {u v : ℕ}

theorem fits (hx : x.Counts u) : Fits u := by
  obtain ⟨-, negative, hfits, -⟩ := hx
  exact hfits

theorem rank? (hx : x.Counts u) : x.rank? = some (u : ℤ) := by
  obtain ⟨hx, negative, hfits, rfl⟩ := hx
  rw [Binary64.rank?, signed_eq hx]

/-- Numbers that are not below zero compare as their units do. -/
theorem lt_iff (hx : x.Counts u) (hy : y.Counts v) : x.lt y = true ↔ u < v := by
  rw [lt, hx.rank?, hy.rank?]
  simp

theorem lt_infinite (hx : x.Counts u) : x.lt (.infinite false) = true := by
  have hrange := hx.fits.1
  rw [lt, hx.rank?, Binary64.rank?, Number.signed_false]
  simp only [decide_eq_true_eq]
  omega

theorem add_eq (hx : x.Counts u) (hy : y.Counts v) :
    ∃ negative, x + y = ofUnits negative (u + v) 1 ∧ (negative = true → u + v = 0) := by
  obtain ⟨hx, s, hu, rfl⟩ := hx
  obtain ⟨hy, t, hv, rfl⟩ := hy
  have hsum : Number.signed s u + Number.signed t v = (u + v : ℕ) := by
    rw [signed_eq hx, signed_eq hy, Nat.cast_add]
  change ∃ negative, add _ _ = _ ∧ _
  rw [Binary64.add, hsum]
  by_cases hzero : u + v = 0
  · exact ⟨s && t, by simp [hzero], fun _ => hzero⟩
  · have hpositive : ((u + v : ℕ) : ℤ) ≠ 0 := by omega
    have hsign : decide (((u + v : ℕ) : ℤ) < 0) = false := decide_eq_false (by omega)
    exact ⟨false, by rw [if_neg hpositive, hsign, Int.natAbs_natCast],
      fun hsigned => absurd hsigned Bool.false_ne_true⟩

theorem mul_eq (hx : x.Counts u) (hy : y.Counts v) :
    ∃ negative, x * y = ofUnits negative (u * v) one ∧ (negative = true → u * v = 0) := by
  obtain ⟨hx, s, hu, rfl⟩ := hx
  obtain ⟨hy, t, hv, rfl⟩ := hy
  change ∃ negative, mul _ _ = _ ∧ _
  refine ⟨s != t, by rw [mul], fun hsigns => Nat.mul_eq_zero.mpr ?_⟩
  cases s with
  | true => exact .inl (notNegative_finite_iff.mp hx rfl)
  | false => exact .inr (notNegative_finite_iff.mp hy (by simpa using hsigns))

/-- A sum is that of the units, rounded, until this is beyond the range. -/
theorem add (hx : x.Counts u) (hy : y.Counts v) :
    u + v < overflow ∧ (x + y).Counts (roundUnits (u + v) 1) ∨
      overflow ≤ u + v ∧ x + y = .infinite false := by
  obtain ⟨negative, hsum, hsign⟩ := hx.add_eq hy
  rw [hsum]
  rcases Nat.lt_or_ge (u + v) overflow with hsmall | hlarge
  · exact .inl ⟨hsmall, counts_ofUnits hsign ((roundUnits_lt_iff _).mpr hsmall)⟩
  · refine .inr ⟨hlarge, ofUnits_of_large hsign ?_⟩
    rw [← Nat.not_lt, roundUnits_lt_iff]
    exact Nat.not_lt.mpr hlarge

theorem zero_add (hx : x.Counts u) : (zero + x).Counts u := by
  rcases counts_zero.add hx with ⟨-, hcounts⟩ | ⟨hlarge, -⟩
  · rwa [Nat.zero_add, hx.fits.2] at hcounts
  · have hsmall := hx.fits.lt_overflow
    omega

/-- A product with a power of two is exact, until it is beyond the range. -/
theorem mul_pow (hx : x.Counts u) {k : ℕ} (hy : y.Counts (2 ^ k * one)) :
    (x * y).Saturates (u * 2 ^ k) := by
  obtain ⟨negative, hproduct, hsign⟩ := hx.mul_eq hy
  rw [← Nat.mul_assoc] at hproduct hsign
  rw [hproduct]
  refine saturates_ofUnits one_pos (fun hnegative => ?_) fun hsmall => fits_mul_pow hx.fits hsmall
  exact (Nat.mul_eq_zero.mp (hsign hnegative)).resolve_right one_pos.ne'

theorem mul_one (hx : x.Counts u) (hy : y.Counts one) : (x * y).Counts u := by
  have hsmall := hx.fits.lt_overflow
  rcases hx.mul_pow (k := 0) (by rwa [Nat.pow_zero, Nat.one_mul]) with ⟨-, hcounts⟩ | ⟨hlarge, -⟩
  · rwa [Nat.pow_zero, Nat.mul_one] at hcounts
  · rw [Nat.pow_zero, Nat.mul_one] at hlarge
    omega

/-- A product with a fraction is not larger than the other factor. -/
theorem mul_fraction (hx : x.Counts u) (hy : y.Counts v) (hv : v ≤ one) :
    ∃ w ≤ u, (x * y).Counts w := by
  obtain ⟨negative, hproduct, hsign⟩ := hx.mul_eq hy
  have hle : roundUnits (u * v) one ≤ u :=
    roundUnits_le_of_fits one_pos (Nat.mul_le_mul_left u hv) hx.fits
  rw [hproduct]
  exact ⟨_, hle, counts_ofUnits hsign (hle.trans_lt hx.fits.1)⟩

end Counts

/-- Powers of two are held, up to the last one in the range. -/
theorem counts_pow {k : ℕ} (hk : k ≤ 1023) : (ofInt (Nat.pow 2 k : ℕ)).Counts (2 ^ k * one) := by
  have hone : 2 ^ k * one = 1 * 2 ^ (k + 1074) := by
    rw [Nat.one_mul, Nat.pow_add]
    exact congrArg (2 ^ k * ·) (by decide +kernel)
  have hround : roundUnits (2 ^ k * one) 1 = 2 ^ k * one := by
    rw [hone, roundUnits_mul_pow (by decide)]
  have hsmall : 2 ^ k * one < Nat.pow 2 2098 := by
    have hlast : 2 ^ (1023 + 1074) < Nat.pow 2 2098 := by decide +kernel
    rw [hone, Nat.one_mul]
    exact (Nat.pow_le_pow_right (by decide) (by omega)).trans_lt hlast
  have hofInt : ofInt (Nat.pow 2 k : ℕ) = ofUnits false (2 ^ k * one) 1 := by
    have hsign : decide (((Nat.pow 2 k : ℕ) : ℤ) < 0) = false := decide_eq_false (by omega)
    rw [ofInt, hsign, Int.natAbs_natCast]
    rfl
  rw [hofInt]
  have hcounts : (ofUnits false (2 ^ k * one) 1).Counts (roundUnits (2 ^ k * one) 1) :=
    counts_ofUnits nofun (hround.trans_lt hsmall)
  rwa [hround] at hcounts

section Finite

variable {x y : Binary64} {u v : ℕ}

def toRat (x : Binary64) : ℚ := x.value?.getD 0

theorem Counts.toRat (hx : x.Counts u) : x.toRat = u / one := by
  obtain ⟨hx, negative, fits, rfl⟩ := hx
  rw [Binary64.toRat, value?, Option.getD_some, signed_eq hx, Int.cast_natCast]

/-- A finite number that is not below zero is a number of units. -/
theorem exists_counts (hx : NotNegative x) (hfinite : x.isFinite = true) : ∃ u, x.Counts u := by
  cases x with
  | finite negative units fits => exact ⟨units, hx, negative, fits, rfl⟩
  | _ => cases hfinite

theorem Counts.isFinite (hx : x.Counts u) : x.isFinite = true := by
  obtain ⟨-, negative, fits, rfl⟩ := hx
  rfl

namespace Saturates

/-- A sum or a product is finite just below the overflow. -/
theorem isFinite_iff (hx : x.Saturates u) : x.isFinite = true ↔ u < overflow := by
  rcases hx with ⟨hsmall, hcounts⟩ | ⟨hlarge, rfl⟩
  · exact iff_of_true hcounts.isFinite hsmall
  · exact iff_of_false nofun (Nat.not_lt.mpr hlarge)

/-- A sum is finite just if that of the units is in the range. -/
theorem add_isFinite_iff (hx : x.Saturates u) (hy : y.Counts v) :
    (x + y).isFinite = true ↔ u + v < overflow := by
  rcases hx with ⟨hsmall, hcounts⟩ | ⟨hlarge, rfl⟩
  · rcases hcounts.add hy with ⟨hsum, hx⟩ | ⟨hsum, hx⟩
    · exact iff_of_true hx.isFinite hsum
    · rw [hx]
      exact iff_of_false nofun (Nat.not_lt.mpr hsum)
  · obtain ⟨-, negative, fits, rfl⟩ := hy
    exact iff_of_false nofun (by omega)

/-- The lesser of what is left and of a cap. -/
theorem capped (hx : x.Saturates u) (hy : y.Counts v) :
    (if y.lt x then y else x).Saturates (min u v) := by
  have hsmall := hy.fits.lt_overflow
  rcases hx with ⟨-, hcounts⟩ | ⟨hlarge, rfl⟩
  · split_ifs with hlower
    · rw [hy.lt_iff hcounts] at hlower
      rw [Nat.min_eq_right hlower.le]
      exact .counts hsmall hy
    · rw [hy.lt_iff hcounts] at hlower
      rw [Nat.min_eq_left (Nat.not_lt.mp hlower)]
      exact .counts hcounts.fits.lt_overflow hcounts
  · rw [if_pos hy.lt_infinite, Nat.min_eq_right (hsmall.le.trans hlarge)]
    exact .counts hsmall hy

end Saturates

/-- The end of the range, told in ones instead of units. -/
theorem lt_overflow_iff : u < overflow ↔ (u / one : ℚ) < 2 ^ 1024 - 2 ^ 970 := by
  have hrange : overflow = (2 ^ 1024 - 2 ^ 970) * one := by decide +kernel
  have hone : (0 : ℚ) < one := by exact_mod_cast one_pos
  have hle : 2 ^ 970 ≤ 2 ^ 1024 := pow_le_pow_right₀ (by decide) (by decide)
  have hcast : ((2 ^ 1024 - 2 ^ 970 : ℕ) : ℚ) = 2 ^ 1024 - 2 ^ 970 := by
    rw [Nat.cast_sub hle, Nat.cast_pow, Nat.cast_pow, Nat.cast_ofNat]
  rw [div_lt_iff₀ hone, ← hcast, ← Nat.cast_mul, Nat.cast_lt, hrange]

end Finite

end VersionedStore.Binary64
