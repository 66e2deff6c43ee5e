import Mathlib.Data.Int.Notation
import VersionedStore.Proofs.Number.Decimal
import VersionedStore.Retry.Policy

/-!
Numbers that are not below zero stay so under sums and products, whatever is
rounded on the way, even when an infinity or NaN comes in. So a delay that is
made of such numbers is never refused.
-/

namespace VersionedStore

open Number

namespace Binary64

theorem notNegative_iff {x : Binary64} : NotNegative x ↔ ∀ r, x.rank? = some r → 0 ≤ r := by
  have hzero : Binary64.zero.rank? = some 0 := rfl
  rw [NotNegative, lt, hzero]
  cases hx : x.rank? with
  | none => simp
  | some r => simp

theorem notNegative_nan : NotNegative .nan := notNegative_iff.mpr nofun

theorem notNegative_zero : NotNegative .zero := by decide

theorem notNegative_infinite_iff {negative : Bool} :
    NotNegative (.infinite negative) ↔ negative = false := by
  have hbound : (0 : ℤ) < (Nat.pow 2 2098 : ℕ) := by decide +kernel
  simp only [notNegative_iff, rank?, Option.some.injEq, forall_eq']
  cases negative with
  | false =>
    rw [signed_false]
    exact iff_of_true (Int.le_of_lt hbound) rfl
  | true =>
    rw [signed_true]
    exact iff_of_false (by omega) nofun

/-- Of the two zeros, the negative one is not below zero either. -/
theorem notNegative_finite_iff {negative : Bool} {units : ℕ} {fits : Fits units} :
    NotNegative (.finite negative units fits) ↔ (negative = true → units = 0) := by
  simp only [notNegative_iff, rank?, Option.some.injEq, forall_eq']
  cases negative with
  | false => simp [signed_false]
  | true => simp [signed_true]

theorem roundUnits_zero (den : ℕ) : roundUnits 0 den = 0 := by
  have hexcess : excess 0 = 0 := by decide
  simp [roundUnits, roundHalfEven, Nat.zero_div, hexcess]

theorem notNegative_ofUnits {negative : Bool} {num : ℕ} (den : ℕ)
    (hnum : negative = true → num = 0) : NotNegative (ofUnits negative num den) := by
  rw [ofUnits]
  split_ifs with hfits
  · refine notNegative_finite_iff.mpr fun hnegative => ?_
    rw [hnum hnegative, roundUnits_zero]
  · refine notNegative_infinite_iff.mpr (Bool.eq_false_iff.mpr fun hnegative => hfits ?_)
    rw [hnum hnegative, roundUnits_zero]
    exact fits_zero

theorem notNegative_ofInt {n : ℤ} (hn : 0 ≤ n) : NotNegative (ofInt n) :=
  notNegative_ofUnits 1 fun hnegative => absurd (of_decide_eq_true hnegative) (by omega)

/-- Neither a product nor a sum of numbers that are not below zero is below zero. -/
theorem notNegative_mul {x y : Binary64} (hx : NotNegative x) (hy : NotNegative y) :
    NotNegative (x * y) := by
  change NotNegative (mul x y)
  match x, y with
  | .nan, _ => exact notNegative_nan
  | .infinite _, .nan => exact notNegative_nan
  | .finite .., .nan => exact notNegative_nan
  | .infinite s, .infinite t =>
    obtain rfl := notNegative_infinite_iff.mp hx
    obtain rfl := notNegative_infinite_iff.mp hy
    exact notNegative_infinite_iff.mpr rfl
  | .infinite s, .finite t u _ =>
    obtain rfl := notNegative_infinite_iff.mp hx
    rw [mul]
    split_ifs with hu
    · exact notNegative_nan
    · cases t with
      | false => exact notNegative_infinite_iff.mpr rfl
      | true => exact absurd (notNegative_finite_iff.mp hy rfl) hu
  | .finite t u _, .infinite s =>
    obtain rfl := notNegative_infinite_iff.mp hy
    rw [mul]
    split_ifs with hu
    · exact notNegative_nan
    · cases t with
      | false => exact notNegative_infinite_iff.mpr rfl
      | true => exact absurd (notNegative_finite_iff.mp hx rfl) hu
  | .finite s u _, .finite t v _ =>
    rw [mul]
    refine notNegative_ofUnits one fun hsigns => Nat.mul_eq_zero.mpr ?_
    cases s with
    | true => exact .inl (notNegative_finite_iff.mp hx rfl)
    | false => exact .inr (notNegative_finite_iff.mp hy (by simpa using hsigns))

theorem notNegative_add {x y : Binary64} (hx : NotNegative x) (hy : NotNegative y) :
    NotNegative (x + y) := by
  change NotNegative (add x y)
  match x, y with
  | .nan, _ => exact notNegative_nan
  | .infinite _, .nan => exact notNegative_nan
  | .finite .., .nan => exact notNegative_nan
  | .infinite s, .infinite t =>
    obtain rfl := notNegative_infinite_iff.mp hx
    obtain rfl := notNegative_infinite_iff.mp hy
    exact notNegative_infinite_iff.mpr rfl
  | .infinite s, .finite .. => exact hx
  | .finite .., .infinite s => exact hy
  | .finite s u _, .finite t v _ =>
    have hu := notNegative_iff.mp hx _ rfl
    have hv := notNegative_iff.mp hy _ rfl
    rw [add]
    split_ifs with hsum
    · exact notNegative_ofUnits 1 fun _ => rfl
    · exact notNegative_ofUnits 1 fun hnegative => absurd (of_decide_eq_true hnegative) (by omega)

end Binary64

namespace Delay

theorem ofSeconds_of_notNegative {x : Binary64} (hx : NotNegative x) : ofSeconds x = .ok ⟨x, hx⟩ :=
  dif_pos hx

end Delay

/-- A share of a maximum, for a fraction that is not below zero. -/
theorem notNegative_share {max fraction : Binary64} (hmax : NotNegative max)
    (hfraction : NotNegative fraction) : NotNegative (share max fraction) :=
  Binary64.notNegative_add Binary64.notNegative_zero (Binary64.notNegative_mul hmax hfraction)

namespace Backoff

theorem notNegative_uncapped (b : Backoff) (attempt : ℤ) : NotNegative (b.uncapped attempt) :=
  Binary64.notNegative_mul b.baseNotNegative (Binary64.notNegative_ofInt (Int.natCast_nonneg _))

/-- No delay of a backoff is refused as a time to wait. -/
theorem notNegative_seconds (b : Backoff) (attempt : ℤ) : NotNegative (b.seconds attempt) := by
  have huncapped := b.notNegative_uncapped attempt
  unfold seconds
  split
  · exact Binary64.notNegative_zero
  · cases hcap : b.cap with
    | none => exact huncapped
    | some cap =>
      simp only
      split_ifs
      · exact b.capNotNegative cap hcap
      · exact huncapped

end Backoff

end VersionedStore
