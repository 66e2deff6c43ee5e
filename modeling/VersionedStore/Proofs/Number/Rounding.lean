import VersionedStore.Proofs.Number.Exact

/-!
Rounding to 53 significant bits keeps the order of numbers, and a number that
was rounded is not changed by rounding it again. So the range of the format ends
at one place for all operations: half a unit of the last place beyond the
greatest finite number, where the tie goes upwards.
-/

namespace VersionedStore.Binary64

theorem le_roundHalfEven (num den : ℕ) : num / den ≤ roundHalfEven num den := by
  unfold roundHalfEven
  dsimp only
  split_ifs <;> omega

/-- Rounding goes up by one at most. -/
theorem roundHalfEven_le (num den : ℕ) : roundHalfEven num den ≤ num / den + 1 := by
  unfold roundHalfEven
  dsimp only
  split_ifs <;> omega

theorem roundHalfEven_mono {a b : ℕ} (den : ℕ) (h : a ≤ b) :
    roundHalfEven a den ≤ roundHalfEven b den := by
  have hdiv : a / den ≤ b / den := Nat.div_le_div_right h
  rcases Nat.lt_or_eq_of_le hdiv with hlt | heq
  · have hupper := roundHalfEven_le a den
    have hlower := le_roundHalfEven b den
    omega
  · -- the whole parts are the same, so the remainders are in order
    have hmod : a % den ≤ b % den := by
      have ha := Nat.div_add_mod a den
      have hb := Nat.div_add_mod b den
      rw [heq] at ha
      omega
    unfold roundHalfEven
    dsimp only
    rw [heq]
    split_ifs <;> omega

theorem lt_pow_excess (units : ℕ) : units < 2 ^ (excess units + 53) := by
  have hlog : units < 2 ^ (units.log2 + 1) := Nat.lt_log2_self
  refine hlog.trans_le (Nat.pow_le_pow_right (by decide) ?_)
  unfold excess
  omega

theorem pow_excess_le {units : ℕ} (h : 0 < excess units) : 2 ^ (excess units + 52) ≤ units := by
  have hlog : excess units + 52 = units.log2 := by
    unfold excess at h ⊢
    omega
  rw [hlog]
  refine Nat.log2_self_le ?_
  rintro rfl
  exact absurd h (by decide)

/-- Greater numbers lose no fewer bits. -/
theorem excess_mono {a b : ℕ} (h : a ≤ b) : excess a ≤ excess b :=
  excess_le (h.trans_lt (lt_pow_excess b))

/-- A significand of 53 bits at any place is not rounded, nor is the power of two
after the significands. -/
theorem roundUnits_mul_pow {m : ℕ} (hm : m ≤ 2 ^ 53) (k : ℕ) :
    roundUnits (m * 2 ^ k) 1 = m * 2 ^ k := by
  rcases Nat.lt_or_eq_of_le hm with hlt | rfl
  · refine roundUnits_of_pow_dvd (k := k) ?_ (Nat.dvd_mul_left _ _)
    rw [Nat.pow_add, Nat.mul_comm]
    exact (Nat.mul_lt_mul_left (Nat.two_pow_pos _)).mpr hlt
  · rw [← Nat.pow_add]
    refine roundUnits_of_pow_dvd (k := k + 1) ?_ (Nat.pow_dvd_pow 2 (by omega))
    exact Nat.pow_lt_pow_right (by decide) (by omega)

section

variable (num den : ℕ)

/-- A rounded number is a significand of at most 53 bits, or the power of two
after these, at the place of its last bit. -/
theorem exists_roundUnits : ∃ m ≤ 2 ^ 53, roundUnits num den = m * 2 ^ excess (num / den) := by
  refine ⟨roundHalfEven num (den * 2 ^ excess (num / den)), ?_, rfl⟩
  have hquotient : num / (den * 2 ^ excess (num / den)) < 2 ^ 53 := by
    rw [← Nat.div_div_eq_div_mul]
    refine Nat.div_lt_of_lt_mul ?_
    rw [← Nat.pow_add]
    exact lt_pow_excess _
  have hround := roundHalfEven_le num (den * 2 ^ excess (num / den))
  omega

theorem roundUnits_le : roundUnits num den ≤ 2 ^ (excess (num / den) + 53) := by
  obtain ⟨m, hm, hround⟩ := exists_roundUnits num den
  rw [hround, Nat.pow_add, Nat.mul_comm]
  exact Nat.mul_le_mul_left _ hm

theorem le_roundUnits (h : 0 < excess (num / den)) :
    2 ^ (excess (num / den) + 52) ≤ roundUnits num den := by
  have hquotient : 2 ^ 52 ≤ num / (den * 2 ^ excess (num / den)) := by
    rw [← Nat.div_div_eq_div_mul, Nat.le_div_iff_mul_le (Nat.two_pow_pos _), ← Nat.pow_add,
      Nat.add_comm]
    exact pow_excess_le h
  rw [Nat.pow_add, Nat.mul_comm]
  exact Nat.mul_le_mul_right _ (hquotient.trans (le_roundHalfEven _ _))

variable {num} in
/-- Rounding to a significand keeps the order, also where the number of bits changes. -/
theorem roundUnits_mono {num' : ℕ} (h : num ≤ num') : roundUnits num den ≤ roundUnits num' den := by
  have hexcess := excess_mono (Nat.div_le_div_right (c := den) h)
  rcases Nat.lt_or_eq_of_le hexcess with hlt | heq
  · -- there is a power of two between the two numbers
    calc roundUnits num den ≤ 2 ^ (excess (num / den) + 53) := roundUnits_le num den
      _ ≤ 2 ^ (excess (num' / den) + 52) := Nat.pow_le_pow_right (by decide) (by omega)
      _ ≤ roundUnits num' den := le_roundUnits num' den (by omega)
  · unfold roundUnits
    dsimp only
    rw [heq]
    exact Nat.mul_le_mul_right _ (roundHalfEven_mono _ h)

/-- What has been rounded is not rounded again. -/
theorem roundUnits_roundUnits : roundUnits (roundUnits num den) 1 = roundUnits num den := by
  obtain ⟨m, hm, hround⟩ := exists_roundUnits num den
  rw [hround, roundUnits_mul_pow hm]

/-- Only the range keeps a rounded number out of the format. -/
theorem fits_roundUnits_iff : Fits (roundUnits num den) ↔ roundUnits num den < Nat.pow 2 2098 :=
  and_iff_left (roundUnits_roundUnits num den)

end

/-- The number of units from which on a number is rounded to an infinity. -/
def overflow : ℕ := Nat.pow 2 2098 - Nat.pow 2 2044

/-- A number is rounded beyond the range just from the overflow on. -/
theorem roundUnits_lt_iff (units : ℕ) :
    roundUnits units 1 < Nat.pow 2 2098 ↔ units < overflow := by
  have hbelow : roundUnits (overflow - 1) 1 < Nat.pow 2 2098 := by decide +kernel
  have habove : Nat.pow 2 2098 ≤ roundUnits overflow 1 := by decide +kernel
  constructor
  · intro hround
    by_contra hlarge
    have hmono := roundUnits_mono 1 (Nat.not_lt.mp hlarge)
    exact Nat.not_lt.mpr (habove.trans hmono) hround
  · intro hsmall
    exact (roundUnits_mono 1 (Nat.le_sub_one_of_lt hsmall)).trans_lt hbelow

theorem Fits.lt_overflow {units : ℕ} (h : Fits units) : units < overflow := by
  rw [← roundUnits_lt_iff, h.2]
  exact h.1

/-- A quotient that is at most a number of the format is not rounded beyond it. -/
theorem roundUnits_le_of_fits {units num den : ℕ} (hden : 0 < den) (h : num ≤ units * den)
    (hfits : Fits units) : roundUnits num den ≤ units := by
  calc roundUnits num den ≤ roundUnits (units * den) den := roundUnits_mono den h
    _ = units := by rw [roundUnits_mul_right units hden, hfits.2]

/-- A number of the format that is doubled again and again stays one within the
range. -/
theorem fits_mul_pow {units k : ℕ} (h : Fits units) (hrange : units * 2 ^ k < Nat.pow 2 2098) :
    Fits (units * 2 ^ k) := by
  obtain ⟨m, hm, hround⟩ := exists_roundUnits units 1
  have hunits : units * 2 ^ k = m * 2 ^ (excess (units / 1) + k) := by
    rw [Nat.pow_add, ← Nat.mul_assoc, ← hround, h.2]
  refine ⟨hrange, ?_⟩
  rw [hunits, roundUnits_mul_pow hm]

end VersionedStore.Binary64
