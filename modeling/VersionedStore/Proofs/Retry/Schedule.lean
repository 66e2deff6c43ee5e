import VersionedStore.Proofs.Retry.Spoiled

/-!
The schedule of a backoff. Its delays are those of exact arithmetic: the base delay
doubled after each attempt but the first, sixty-two times at most, and never more
than the cap. So they get no shorter from attempt to attempt, and jitter lengthens
them by no more than its maximum. A delay beyond the range of the format is an
infinity, which a cap keeps from being reached.
-/

namespace VersionedStore

namespace Binary64

variable {x y z : Binary64} {u v w : ℕ}

/-- A number that stands for a value: the value itself or, beyond the range of the
format, an infinity. -/
inductive Reaches (x : Binary64) (q : ℚ) : Prop where
  | exact (hsmall : q < 2 ^ 1024 - 2 ^ 970) (hx : x.value? = some q)
  | infinite (hlarge : 2 ^ 1024 - 2 ^ 970 ≤ q) (hx : x = .infinite false)

theorem Counts.value? (hx : x.Counts u) : x.value? = some (u / one : ℚ) := by
  obtain ⟨hx, negative, fits, rfl⟩ := hx
  rw [Binary64.value?, signed_eq hx, Int.cast_natCast]

theorem Counts.le (hx : x.Counts u) (hy : y.Counts v) (h : u ≤ v) : x.le y = true := by
  rw [Binary64.le, hx.rank?, hy.rank?]
  simpa using h

theorem Counts.le_infinite (hx : x.Counts u) : x.le (.infinite false) = true := by
  have hrange := hx.fits.1
  rw [Binary64.le, hx.rank?, Binary64.rank?, Number.signed_false]
  simp only [decide_eq_true_eq]
  omega

theorem infinite_le_infinite : (infinite false).le (.infinite false) = true := by
  rw [Binary64.le, rank?]
  exact decide_eq_true le_rfl

theorem Counts.infinite_add (hy : y.Counts v) : .infinite false + y = .infinite false := by
  obtain ⟨-, negative, fits, rfl⟩ := hy
  rfl

theorem saturates_zero : zero.Saturates 0 := .counts (by decide +kernel) counts_zero

namespace Saturates

theorem reaches (hx : x.Saturates u) : x.Reaches (u / one) := by
  rcases hx with ⟨hsmall, hcounts⟩ | ⟨hlarge, rfl⟩
  · exact .exact (lt_overflow_iff.mp hsmall) hcounts.value?
  · apply Reaches.infinite _ rfl
    rw [← not_lt, ← lt_overflow_iff]
    omega

/-- Numbers are in the order of the units that they are left of. -/
theorem le (hx : x.Saturates u) (hy : y.Saturates v) (h : u ≤ v) : x.le y = true := by
  rcases hx with ⟨hsmall, hx⟩ | ⟨hlarge, rfl⟩
  · rcases hy with ⟨-, hy⟩ | ⟨-, rfl⟩
    · exact hx.le hy h
    · exact hx.le_infinite
  · rcases hy with ⟨hsmall, -⟩ | ⟨-, rfl⟩
    · omega
    · exact infinite_le_infinite

/-- A sum is what is left of the sum of the units, rounded. -/
theorem add (hx : x.Saturates u) (hy : y.Counts v) :
    (x + y).Saturates (roundUnits (u + v) 1) := by
  have hlimit : overflow ≤ u + v → overflow ≤ roundUnits (u + v) 1 := by
    intro hlarge
    have hround : ¬roundUnits (u + v) 1 < Nat.pow 2 2098 := by
      rw [roundUnits_lt_iff]
      omega
    exact overflow_le_range.trans (Nat.not_lt.mp hround)
  rcases hx with ⟨-, hx⟩ | ⟨hlarge, rfl⟩
  · rcases hx.add hy with ⟨-, hsum⟩ | ⟨hsum, hinfinite⟩
    · exact .counts hsum.fits.lt_overflow hsum
    · exact .infinite (hlimit hsum) hinfinite
  · exact .infinite (hlimit (hlarge.trans (Nat.le_add_right u v))) hy.infinite_add

/-- Adding jitter never shortens a delay, even where the sum is rounded. -/
theorem le_add (hx : x.Saturates u) (hy : y.Counts v) : x.le (x + y) = true := by
  have hsum := hx.add hy
  rcases hx with ⟨hsmall, hx⟩ | ⟨-, rfl⟩
  · apply le (.counts hsmall hx) hsum
    calc u = roundUnits u 1 := hx.fits.2.symm
      _ ≤ roundUnits (u + v) 1 := roundUnits_mono 1 (Nat.le_add_right u v)
  · rw [hy.infinite_add]
    exact infinite_le_infinite

/-- More jitter gives no shorter delay. -/
theorem add_le_add (hx : x.Saturates u) (hy : y.Counts v) (hz : z.Counts w) (h : v ≤ w) :
    (x + y).le (x + z) = true :=
  (hx.add hy).le (hx.add hz) (roundUnits_mono 1 (Nat.add_le_add_left h u))

end Saturates

end Binary64

open Binary64

/-- A share of a maximum is not larger than the maximum. -/
theorem counts_share {max fraction : Binary64} {u : ℕ} (hmax : max.Counts u)
    (hlow : zero.le fraction = true) (hhigh : fraction.le (.ofInt 1) = true) :
    ∃ w ≤ u, (share max fraction).Counts w := by
  obtain ⟨v, hv, hfraction⟩ := counts_of_fraction hlow hhigh
  obtain ⟨w, hw, hproduct⟩ := hmax.mul_fraction hfraction hv
  exact ⟨w, hw, hproduct.zero_add⟩

namespace Backoff

variable {b : Backoff}

def product (b : Backoff) (attempt : ℤ) : ℚ :=
  b.base.toRat * 2 ^ (min (attempt - 1) 62).toNat

def limited (b : Backoff) (delay : ℚ) : ℚ :=
  match b.cap with
  | none => delay
  | some cap => min delay cap.toRat

def exact (b : Backoff) (attempt : ℤ) : ℚ :=
  if attempt < 1 then 0 else b.limited (b.product attempt)

structure Finite (b : Backoff) : Prop where
  base : b.base.isFinite = true
  cap : ∀ c, b.cap = some c → c.isFinite = true

/-- What the delays of a backoff are, compared with those of exact arithmetic, with
each other, with their bounds, and with the delays that jitter makes of them. -/
structure FollowsSchedule (b : Backoff) : Prop where
  start : ∀ attempt < 1, b.seconds attempt = .zero
  product : ∀ attempt, 1 ≤ attempt → (b.uncapped attempt).Reaches (b.product attempt)
  exact : ∀ attempt, (b.seconds attempt).Reaches (b.exact attempt)
  mono : ∀ n m, n ≤ m → (b.seconds n).le (b.seconds m) = true
  notNegative : ∀ attempt, zero.le (b.seconds attempt) = true
  capped : ∀ cap, b.cap = some cap → ∀ attempt,
    (b.seconds attempt).value? = some (b.exact attempt) ∧ (b.seconds attempt).le cap = true
  jittered : ∀ max, zero.le max = true → max.isFinite = true →
    ∃ p, RetryPolicy.withMaxJitter ⟨.backoff b, []⟩ max = .ok p ∧
      ∀ (fractions : Fractions) (usage : Usage) attempt e, e.retryable = true →
        zero.le (fractions usage.draws) = true →
        (fractions usage.draws).le (.ofInt 1) = true →
        ∃ delay after, p.decide fractions usage attempt e = (.ok (.retryAfter delay), after) ∧
          (b.seconds attempt).le delay.seconds = true ∧
          delay.seconds.le (b.seconds attempt + max) = true

theorem Finite.counts_base (hb : b.Finite) : ∃ u, b.base.Counts u :=
  exists_counts b.baseNotNegative hb.base

theorem Finite.counts_cap (hb : b.Finite) {cap : Binary64} (hcap : b.cap = some cap) :
    ∃ v, cap.Counts v :=
  exists_counts (b.capNotNegative cap hcap) (hb.cap cap hcap)

/-- The doubled base delay is not rounded. -/
theorem Finite.saturates_uncapped (hb : b.Finite) (attempt : ℤ) :
    ∃ u, (b.uncapped attempt).Saturates u ∧ b.product attempt = u / one := by
  obtain ⟨u, hu⟩ := hb.counts_base
  refine ⟨u * 2 ^ doublings attempt, hu.mul_pow (counts_doublings attempt), ?_⟩
  rw [product, hu.toRat, Nat.cast_mul, Nat.cast_pow, Nat.cast_ofNat, div_mul_eq_mul_div]
  rfl

/-- What is left of the delay after an attempt is left of that of exact arithmetic. -/
theorem Finite.saturates_seconds (hb : b.Finite) (attempt : ℤ) :
    ∃ u, (b.seconds attempt).Saturates u ∧ b.exact attempt = u / one := by
  unfold seconds exact
  split_ifs with hstart
  · exact ⟨0, saturates_zero, by rw [Nat.cast_zero, zero_div]⟩
  · obtain ⟨u, huncapped, hu⟩ := hb.saturates_uncapped attempt
    unfold limited
    cases hcap : b.cap with
    | none => exact ⟨u, huncapped, hu⟩
    | some cap =>
      obtain ⟨v, hv⟩ := hb.counts_cap hcap
      refine ⟨min u v, huncapped.capped hv, ?_⟩
      dsimp only
      rw [hu, hv.toRat, Nat.cast_min, min_div_div_right (Nat.cast_nonneg one)]

theorem Finite.product_nonneg (hb : b.Finite) (attempt : ℤ) : 0 ≤ b.product attempt := by
  obtain ⟨u, -, hu⟩ := hb.saturates_uncapped attempt
  rw [hu]
  positivity

/-- The products grow with the attempts, as the base is not below zero. -/
theorem Finite.product_mono (hb : b.Finite) {n m : ℤ} (h : n ≤ m) :
    b.product n ≤ b.product m := by
  obtain ⟨u, hu⟩ := hb.counts_base
  have hbase : 0 ≤ b.base.toRat := by
    rw [hu.toRat]
    positivity
  apply mul_le_mul_of_nonneg_left _ hbase
  apply pow_le_pow_right₀ (by norm_num)
  omega

/-- A cap keeps the order. -/
theorem limited_mono (b : Backoff) {x y : ℚ} (h : x ≤ y) : b.limited x ≤ b.limited y := by
  unfold limited
  cases b.cap with
  | none => exact h
  | some cap => exact min_le_min_right _ h

theorem Finite.limited_nonneg (hb : b.Finite) {x : ℚ} (hx : 0 ≤ x) : 0 ≤ b.limited x := by
  unfold limited
  cases hcap : b.cap with
  | none => exact hx
  | some cap =>
    obtain ⟨v, hv⟩ := hb.counts_cap hcap
    dsimp only
    rw [hv.toRat]
    apply le_min hx
    positivity

theorem Finite.exact_mono (hb : b.Finite) {n m : ℤ} (h : n ≤ m) : b.exact n ≤ b.exact m := by
  unfold exact
  split_ifs with hn hm hm
  · exact le_rfl
  · exact hb.limited_nonneg (hb.product_nonneg m)
  · omega
  · exact b.limited_mono (hb.product_mono h)

/-- Later delays are no shorter than earlier ones. -/
theorem Finite.seconds_mono (hb : b.Finite) {n m : ℤ} (h : n ≤ m) :
    (b.seconds n).le (b.seconds m) = true := by
  obtain ⟨u, hn, hu⟩ := hb.saturates_seconds n
  obtain ⟨v, hm, hv⟩ := hb.saturates_seconds m
  have hexact := hb.exact_mono h
  have hone : (0 : ℚ) < one := by exact_mod_cast one_pos
  rw [hu, hv, div_le_div_iff_of_pos_right hone, Nat.cast_le] at hexact
  exact hn.le hm hexact

/-- No delay is longer than the cap. -/
theorem exact_le_cap {cap : Binary64} (hb : b.Finite) (hcap : b.cap = some cap) (attempt : ℤ) :
    b.exact attempt ≤ cap.toRat := by
  obtain ⟨v, hv⟩ := hb.counts_cap hcap
  unfold exact
  split_ifs
  · rw [hv.toRat]
    positivity
  · rw [limited, hcap]
    exact min_le_right _ _

/-- A cap is never exceeded, so that the range of the format is never left. -/
theorem Finite.seconds_capped (hb : b.Finite) {cap : Binary64} (hcap : b.cap = some cap)
    (attempt : ℤ) :
    (b.seconds attempt).value? = some (b.exact attempt) ∧ (b.seconds attempt).le cap = true := by
  obtain ⟨u, hseconds, hu⟩ := hb.saturates_seconds attempt
  obtain ⟨v, hv⟩ := hb.counts_cap hcap
  have hexact := exact_le_cap hb hcap attempt
  have hone : (0 : ℚ) < one := by exact_mod_cast one_pos
  rw [hu, hv.toRat, div_le_div_iff_of_pos_right hone, Nat.cast_le] at hexact
  have hsmall := hv.fits.lt_overflow
  rcases hseconds with ⟨-, hcounts⟩ | ⟨hlarge, -⟩
  · rw [hu]
    exact ⟨hcounts.value?, hcounts.le hv hexact⟩
  · omega

/-- Jitter lengthens a delay, and by no more than its maximum. -/
theorem Finite.decide_jittered (hb : b.Finite) {max : Binary64} (hmax : zero.le max = true)
    (hfinite : max.isFinite = true) :
    ∃ p, RetryPolicy.withMaxJitter ⟨.backoff b, []⟩ max = .ok p ∧
      ∀ (fractions : Fractions) (usage : Usage) attempt e, e.retryable = true →
        zero.le (fractions usage.draws) = true →
        (fractions usage.draws).le (.ofInt 1) = true →
        ∃ delay after, p.decide fractions usage attempt e = (.ok (.retryAfter delay), after) ∧
          (b.seconds attempt).le delay.seconds = true ∧
          delay.seconds.le (b.seconds attempt + max) = true := by
  have hsign := notNegative_of_zero_le hmax
  obtain ⟨v, hv⟩ := exists_counts hsign hfinite
  refine ⟨_, dif_pos hsign, ?_⟩
  intro fractions usage attempt e hretryable hlow hhigh
  obtain ⟨w, hw, hshare⟩ := counts_share hv hlow hhigh
  obtain ⟨u, hseconds, -⟩ := hb.saturates_seconds attempt
  have hbase := b.notNegative_seconds attempt
  have hsum : NotNegative (b.seconds attempt + share max (fractions usage.draws)) :=
    notNegative_add hbase (notNegative_share hsign (notNegative_of_zero_le hlow))
  refine ⟨⟨_, hsum⟩, { usage with draws := usage.draws + 1 }, ?_, hseconds.le_add hshare,
    hseconds.add_le_add hshare hv hw⟩
  simp only [RetryPolicy.decide, RetryPolicy.wrap, RetryPolicy.decideWithin, Base.decide,
    hretryable, if_true, Delay.ofSeconds_of_notNegative hbase, Except.map,
    Delay.ofSeconds_of_notNegative hsum]

/-- All that is promised of a backoff of finite numbers. -/
theorem Finite.followsSchedule (hb : b.Finite) : b.FollowsSchedule where
  start attempt hattempt := if_pos hattempt
  product attempt _ := by
    obtain ⟨u, huncapped, hu⟩ := hb.saturates_uncapped attempt
    rw [hu]
    exact huncapped.reaches
  exact attempt := by
    obtain ⟨u, hseconds, hu⟩ := hb.saturates_seconds attempt
    rw [hu]
    exact hseconds.reaches
  mono n m h := hb.seconds_mono h
  notNegative attempt := by
    obtain ⟨u, hseconds, -⟩ := hb.saturates_seconds attempt
    exact saturates_zero.le hseconds (Nat.zero_le u)
  capped cap hcap attempt := hb.seconds_capped hcap attempt
  jittered max hmax hfinite := hb.decide_jittered hmax hfinite

end Backoff

namespace RetryPolicy

/-- Every finite base delay that is at least zero, with or without such a cap, makes a
backoff whose delays follow the schedule. -/
theorem exponential_follows_schedule {base : Binary64} {cap : Option Binary64}
    (hbase : zero.le base = true ∧ base.isFinite = true)
    (hcap : ∀ c, cap = some c → zero.le c = true ∧ c.isFinite = true) :
    ∃ b : Backoff, exponential base cap = .ok ⟨.backoff b, []⟩ ∧ b.base = base ∧ b.cap = cap ∧
      b.FollowsSchedule := by
  have hsign := notNegative_of_zero_le hbase.1
  cases cap with
  | none =>
    refine ⟨⟨base, none, hsign, Backoff.notNegative_of_none_eq_some⟩, ?_, rfl, rfl, ?_⟩
    · simp only [exponential, Backoff.of, dif_pos hsign, Except.map]
    · exact Backoff.Finite.followsSchedule ⟨hbase.2, fun c hc => nomatch hc⟩
  | some c =>
    have hsign' := notNegative_of_zero_le (hcap c rfl).1
    refine ⟨⟨base, some c, hsign, by simp [hsign']⟩, ?_, rfl, rfl, ?_⟩
    · simp only [exponential, Backoff.of, dif_pos hsign, dif_pos hsign', Except.map]
    · exact Backoff.Finite.followsSchedule ⟨hbase.2, fun c hc => (hcap c hc).2⟩

/-- A base delay of a second reaches a cap of five seconds after the fourth attempt;
one of 2^1000 seconds leaves the range after the twenty-fifth, if nothing caps it. -/
theorem exponential_follows_schedule_to_the_end :
    let steep := Binary64.ofInt (Nat.pow 2 1000)
    (zero.le (.ofInt 1) = true ∧ (Binary64.ofInt 1).isFinite = true) ∧
    (zero.le steep = true ∧ steep.isFinite = true) ∧
    (∃ b : Backoff, exponential (.ofInt 1) (some (.ofInt 5)) = .ok ⟨.backoff b, []⟩ ∧
      b.seconds 0 = .zero ∧ (b.seconds 3).value? = some 4 ∧ (b.seconds 4).value? = some 5 ∧
      (b.seconds 4).le (b.seconds 1000) = true) ∧
    ∃ b : Backoff, exponential steep none = .ok ⟨.backoff b, []⟩ ∧
      (b.seconds 24).value? = some (2 ^ 1023) ∧ b.seconds 25 = .infinite false := by
  intro steep
  have hsecond : zero.le (.ofInt 1) = true ∧ (Binary64.ofInt 1).isFinite = true := by
    decide +kernel
  have hfive : zero.le (.ofInt 5) = true ∧ (Binary64.ofInt 5).isFinite = true := by
    decide +kernel
  have hsteep : zero.le steep = true ∧ steep.isFinite = true := by decide +kernel
  refine ⟨hsecond, hsteep, ?_, ?_⟩
  · have hone : (Binary64.ofInt 1).toRat = 1 := by decide +kernel
    have hcap : (Binary64.ofInt 5).toRat = 5 := by decide +kernel
    have hlong : ∀ c, some (Binary64.ofInt 5) = some c →
        zero.le c = true ∧ c.isFinite = true := fun c hc => Option.some.inj hc ▸ hfive
    obtain ⟨b, hpolicy, hb, hb', h⟩ := exponential_follows_schedule hsecond hlong
    have hproduct : b.product 3 = 4 ∧ b.product 4 = 8 := by
      rw [Backoff.product, Backoff.product, hb, hone]
      decide +kernel
    have hexact : b.exact 3 = 4 ∧ b.exact 4 = 5 := by
      norm_num [Backoff.exact, Backoff.limited, hb', hcap, hproduct]
    refine ⟨b, hpolicy, h.start 0 (by decide), ?_, ?_, h.mono 4 1000 (by decide)⟩
    · rw [(h.capped _ hb' 3).1, hexact.1]
    · rw [(h.capped _ hb' 4).1, hexact.2]
  · have hbase : steep.toRat = 2 ^ 1000 := by decide +kernel
    have hopen : ∀ c, (none : Option Binary64) = some c →
        zero.le c = true ∧ c.isFinite = true := fun c hc => absurd hc (Option.some_ne_none c).symm
    obtain ⟨b, hpolicy, hb, hb', h⟩ := exponential_follows_schedule hsteep hopen
    have hexact : b.exact 24 = 2 ^ 1023 ∧ b.exact 25 = 2 ^ 1024 := by
      simp only [Backoff.exact, Backoff.limited, Backoff.product, hb, hb', hbase]
      decide +kernel
    have hrange : (2 : ℚ) ^ 1023 < 2 ^ 1024 - 2 ^ 970 ∧ (2 : ℚ) ^ 1024 - 2 ^ 970 ≤ 2 ^ 1024 := by
      decide +kernel
    have hlast := h.exact 24
    have hbeyond := h.exact 25
    rw [hexact.1] at hlast
    rw [hexact.2] at hbeyond
    refine ⟨b, hpolicy, ?_, ?_⟩
    · rcases hlast with ⟨-, hx⟩ | ⟨hlarge, -⟩
      · exact hx
      · exact absurd hrange.1 (not_lt.mpr hlarge)
    · rcases hbeyond with ⟨hsmall, -⟩ | ⟨-, hx⟩
      · exact absurd hrange.2 (not_le.mpr hsmall)
      · exact hx

end RetryPolicy

end VersionedStore
