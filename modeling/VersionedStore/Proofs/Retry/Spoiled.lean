import VersionedStore.Proofs.Number.Range
import VersionedStore.Proofs.Retry.Pause

/-!
Pauses that are no numbers. A pause is never below zero, but it need not be a number:
constructors refuse what is below zero, which NaN is not, and nothing of an infinite
jitter is NaN as well. A NaN gets through to the pause from wherever it comes, except
from a cap.
-/

namespace VersionedStore

namespace Binary64

variable {x y : Binary64} {units : ℕ}

/-- Only NaN has no place in the order. -/
theorem rank?_eq_none_iff : x.rank? = none ↔ x = .nan := by
  cases x <;> simp only [rank?, reduceCtorEq]

/-- Of the numbers that are not below zero, NaN alone is not at least zero. -/
theorem zero_le_iff_ne_nan (hx : NotNegative x) : zero.le x = true ↔ x ≠ .nan := by
  have hzero : zero.rank? = some 0 := rfl
  rw [ne_eq, ← rank?_eq_none_iff, le, hzero]
  cases hrank : x.rank? with
  | none => simp
  | some r => simpa using notNegative_iff.mp hx r hrank

theorem lt_nan (x : Binary64) : x.lt .nan = false := by
  cases x <;> rfl

/-- A sum of numbers that are not below zero is NaN only if one of them is. -/
theorem add_eq_nan_iff (hx : NotNegative x) (hy : NotNegative y) :
    x + y = .nan ↔ x = .nan ∨ y = .nan := by
  change add x y = .nan ↔ _
  match x, y with
  | .nan, _ => simp [add]
  | .infinite _, .nan => simp [add]
  | .finite .., .nan => simp [add]
  | .infinite s, .infinite t =>
    obtain rfl := notNegative_infinite_iff.mp hx
    obtain rfl := notNegative_infinite_iff.mp hy
    simp [add]
  | .infinite s, .finite .. => simp [add]
  | .finite .., .infinite s => simp [add]
  | .finite s u _, .finite t v _ =>
    simp only [add, ofUnits, reduceCtorEq, or_self, iff_false]
    split_ifs <;> simp only [not_false_eq_true]

/-- A product with a finite number is NaN only if the other factor is, or if an
infinity is multiplied with zero. -/
theorem Counts.mul_eq_nan_iff (hx : NotNegative x) (hy : y.Counts units) :
    x * y = .nan ↔ x = .nan ∨ x = .infinite false ∧ units = 0 := by
  obtain ⟨-, negative, fits, rfl⟩ := hy
  change mul x _ = .nan ↔ _
  cases x with
  | nan => simp [mul]
  | infinite s =>
    obtain rfl := notNegative_infinite_iff.mp hx
    simp [mul]
  | finite s u _ =>
    simp only [mul, ofUnits, reduceCtorEq, false_or, false_and, iff_false]
    split_ifs <;> simp only [not_false_eq_true]

theorem counts_one : (ofInt 1).Counts one := by
  have hone := counts_pow (k := 0) (by decide)
  simpa using hone

/-- Between two finite numbers there are finite numbers only. -/
theorem counts_of_fraction (hlow : zero.le x = true) (hhigh : x.le (.ofInt 1) = true) :
    ∃ units ≤ one, x.Counts units := by
  have hx := notNegative_of_zero_le hlow
  rw [le, counts_one.rank?] at hhigh
  cases x with
  | nan => cases hhigh
  | infinite s =>
    obtain rfl := notNegative_infinite_iff.mp hx
    have hrange : one < Nat.pow 2 2098 := by decide +kernel
    simp only [rank?, Number.signed_false, decide_eq_true_eq] at hhigh
    omega
  | finite s u fits =>
    simp only [rank?, signed_eq hx, decide_eq_true_eq] at hhigh
    exact ⟨u, by omega, hx, s, fits, rfl⟩

theorem Counts.le_zero_iff (hx : x.Counts units) : x.le .zero = true ↔ units = 0 := by
  have hzero : zero.rank? = some 0 := rfl
  rw [le, hx.rank?, hzero]
  simp only [decide_eq_true_eq]
  omega

end Binary64

def SpoilsShare (max fraction : Binary64) : Prop :=
  max = .nan ∨ max = .infinite false ∧ fraction.le .zero = true

/-- A share is NaN if its maximum is, or if nothing is drawn of an infinite one. -/
theorem share_eq_nan_iff {max fraction : Binary64} (hmax : NotNegative max)
    (hlow : Binary64.zero.le fraction = true) (hhigh : fraction.le (.ofInt 1) = true) :
    share max fraction = .nan ↔ SpoilsShare max fraction := by
  have hproduct := Binary64.notNegative_mul hmax (notNegative_of_zero_le hlow)
  obtain ⟨units, -, hcounts⟩ := Binary64.counts_of_fraction hlow hhigh
  have hzero : Binary64.zero ≠ .nan := nofun
  rw [share, Binary64.add_eq_nan_iff Binary64.notNegative_zero hproduct, or_iff_right hzero,
    hcounts.mul_eq_nan_iff hmax, SpoilsShare, hcounts.le_zero_iff]

namespace Backoff

def doublings (attempt : ℤ) : ℕ := (min (attempt - 1) maxDoublings).toNat

theorem doublings_le (attempt : ℤ) : doublings attempt ≤ 62 := by
  unfold doublings maxDoublings
  omega

theorem counts_doublings (attempt : ℤ) :
    (Binary64.ofInt (Nat.pow 2 (doublings attempt) : ℕ)).Counts
      (2 ^ doublings attempt * Binary64.one) :=
  Binary64.counts_pow ((doublings_le attempt).trans (by decide))

variable (b : Backoff) (attempt : ℤ)

/-- Doubling alone spoils no delay. -/
theorem uncapped_eq_nan_iff : b.uncapped attempt = .nan ↔ b.base = .nan := by
  have hpositive : 2 ^ doublings attempt * Binary64.one ≠ 0 :=
    Nat.mul_ne_zero (Nat.two_pow_pos _).ne' Binary64.one_pos.ne'
  exact ((counts_doublings attempt).mul_eq_nan_iff b.baseNotNegative).trans
    (or_iff_left fun h => hpositive h.2)

/-- The delay after an attempt is NaN just if the base delay is: a cap that is NaN
is below nothing, and a delay that is NaN is above no cap. -/
theorem seconds_eq_nan_iff : b.seconds attempt = .nan ↔ 1 ≤ attempt ∧ b.base = .nan := by
  unfold seconds
  split_ifs with hfirst
  · exact iff_of_false nofun fun h => absurd h.1 (by omega)
  · have hattempt : 1 ≤ attempt := by omega
    rw [and_iff_right hattempt, ← b.uncapped_eq_nan_iff attempt]
    cases b.cap with
    | none => rfl
    | some cap =>
      dsimp only
      split_ifs with hlower
      · refine iff_of_false ?_ ?_
        · rintro rfl
          cases hlower
        · intro hnan
          rw [hnan, Binary64.lt_nan] at hlower
          cases hlower
      · rfl

end Backoff

namespace RetryPolicy

variable {p : RetryPolicy} {fractions : Fractions} {layers : List Layer} {usage : Usage}
  {attempt : ℤ} {e : StoreError} {longer : Delay}

/-- Whether the share of some layer of jitter is not a number. The layers inside
that one draw before it. -/
def SpoilsSome (fractions : Fractions) (drawn : ℕ) (layers : List Layer) : Prop :=
  ∃ max notNegative inner, .jitter max notNegative :: inner <:+ layers ∧
    SpoilsShare max (fractions (drawn + draws inner))

/-- Whether a delay of a policy is not a number: because the base delay is none, or
because the share of some layer of jitter is none. -/
inductive Spoiled (p : RetryPolicy) (fractions : Fractions) (drawn : ℕ) (attempt : ℤ) : Prop where
  | base (b : Backoff) (hbase : p.base = .backoff b) (hattempt : 1 ≤ attempt)
    (hnan : b.base = .nan)
  | jitter (hsome : SpoilsSome fractions drawn p.layers)

theorem spoilsSome_cons_iff (l : Layer) (drawn : ℕ) :
    SpoilsSome fractions drawn (l :: layers) ↔ SpoilsSome fractions drawn layers ∨
      ∃ max notNegative, l = .jitter max notNegative ∧
        SpoilsShare max (fractions (drawn + draws layers)) := by
  simp only [SpoilsSome, List.suffix_cons_iff]
  constructor
  · intro h
    obtain ⟨max, notNegative, inner, hlayer | hinner, hshare⟩ := h
    · obtain ⟨rfl, rfl⟩ := List.cons.inj hlayer
      exact .inr ⟨max, notNegative, rfl, hshare⟩
    · exact .inl ⟨max, notNegative, inner, hinner, hshare⟩
  · intro h
    rcases h with ⟨max, notNegative, inner, hinner, hshare⟩ | ⟨max, notNegative, rfl, hshare⟩
    · exact ⟨max, notNegative, inner, .inr hinner, hshare⟩
    · exact ⟨max, notNegative, layers, .inl rfl, hshare⟩

/-- A delay stays not below zero, and it becomes NaN only by a share that is. -/
theorem lengthened_eq_nan_iff (hfractions : fractions.Proper) (drawn : ℕ) {seconds : Binary64}
    (hseconds : NotNegative seconds) :
    NotNegative (lengthened fractions drawn layers seconds) ∧
      (lengthened fractions drawn layers seconds = .nan ↔
        seconds = .nan ∨ SpoilsSome fractions drawn layers) := by
  induction layers with
  | nil => exact ⟨hseconds, by simp [lengthened, SpoilsSome]⟩
  | cons l layers ih =>
    obtain ⟨hnotNegative, hnan⟩ := ih
    cases l with
    | maxAttempts n positive =>
      refine ⟨hnotNegative, hnan.trans ?_⟩
      rw [spoilsSome_cons_iff]
      simp
    | skip test =>
      refine ⟨hnotNegative, hnan.trans ?_⟩
      rw [spoilsSome_cons_iff]
      simp
    | jitter max hmax =>
      obtain ⟨hlow, hhigh⟩ := hfractions (drawn + draws layers)
      have hshare := notNegative_share hmax (notNegative_of_zero_le hlow)
      refine ⟨Binary64.notNegative_add hnotNegative hshare, ?_⟩
      rw [lengthened, Binary64.add_eq_nan_iff hnotNegative hshare, hnan,
        share_eq_nan_iff hmax hlow hhigh, spoilsSome_cons_iff]
      simp [or_assoc, hmax]

/-- A delay that a policy of the library's own asks for is at least zero, unless it
is spoiled. -/
theorem zero_le_iff_not_spoiled (hbase : ∀ answer, p.base ≠ .custom answer)
    (hfractions : fractions.Proper)
    (h : (p.decide fractions usage attempt e).1 = .ok (.retryAfter longer)) :
    Binary64.zero.le longer.seconds = true ↔ ¬p.Spoiled fractions usage.draws attempt := by
  obtain ⟨delay, hdelay, hseconds, -⟩ := exists_of_decide_eq_retryAfter hfractions h
  obtain ⟨b, hb, hbackoff⟩ := exists_backoff_of_base hbase hdelay
  rw [Binary64.zero_le_iff_ne_nan longer.notNegative, ne_eq, not_iff_not, hseconds, hbackoff,
    (lengthened_eq_nan_iff hfractions usage.draws (b.notNegative_seconds attempt)).2,
    b.seconds_eq_nan_iff]
  constructor
  · intro hspoiled
    rcases hspoiled with ⟨hattempt, hbase⟩ | hsome
    · exact .base b hb hattempt hbase
    · exact .jitter hsome
  · intro hspoiled
    cases hspoiled with
    | base b' hb' hattempt hnan =>
      obtain rfl := Base.backoff.inj (hb.symm.trans hb')
      exact .inl ⟨hattempt, hnan⟩
    | jitter hsome => exact .inr hsome

/-- Under numbers as they are meant, no delay is spoiled. -/
theorem not_spoiled {p : RetryPolicy} {fractions : Fractions}
    (hbase : ∀ b, p.base = .backoff b → b.base ≠ .nan)
    (hjitter : ∀ max notNegative, .jitter max notNegative ∈ p.layers → max.isFinite = true)
    (drawn : ℕ) (attempt : ℤ) : ¬p.Spoiled fractions drawn attempt := by
  intro hspoiled
  cases hspoiled with
  | base b hb hattempt hnan => exact hbase b hb hnan
  | jitter hsome =>
    obtain ⟨max, notNegative, inner, hlayers, hshare⟩ := hsome
    have hfinite := hjitter max notNegative (hlayers.subset List.mem_cons_self)
    rcases hshare with rfl | ⟨rfl, -⟩ <;> cases hfinite

/-- No policy of the library's own asks for a delay below zero, nor does a run sleep
for one. The delay is at least zero just if it is not spoiled, which numbers as they
are meant never are. -/
theorem pauses_at_least_zero_iff (p : RetryPolicy) (hbase : ∀ answer, p.base ≠ .custom answer)
    {fractions : Fractions} (hfractions : fractions.Proper) (usage : Usage) :
    (∀ attempt e delay, (p.decide fractions usage attempt e).1 = .ok (.retryAfter delay) →
      delay.seconds.lt .zero = false ∧
        (Binary64.zero.le delay.seconds = true ↔ ¬p.Spoiled fractions usage.draws attempt)) ∧
    (∀ (α : Type) (tape : List (Attempt α)) k delay,
      (Retry.run p fractions usage tape).sleeps[k]? = some delay →
        delay.seconds.lt .zero = false ∧
          (Binary64.zero.le delay.seconds = true ↔
            ¬p.Spoiled fractions (usage.draws + k * draws p.layers) (k + 1 : ℕ))) ∧
    ((∀ b, p.base = .backoff b → b.base ≠ .nan) →
      (∀ max notNegative, .jitter max notNegative ∈ p.layers → max.isFinite = true) →
        ∀ drawn attempt, ¬p.Spoiled fractions drawn attempt) := by
  refine ⟨fun attempt e delay h => ⟨delay.notNegative, ?_⟩, fun α tape k delay hsleep =>
    ⟨delay.notNegative, ?_⟩, not_spoiled⟩
  · exact zero_le_iff_not_spoiled hbase hfractions h
  · obtain ⟨before, e, hdecide, hdraws⟩ := Retry.exists_decision_of_sleep hfractions hsleep
    rw [zero_le_iff_not_spoiled hbase hfractions hdecide, hdraws, Nat.add_comm 1 k]

def unanswered : Attempt Unit := ⟨.error (.error ⟨"down", none, .transport none⟩), []⟩

def fromOneSecond : Backoff :=
  ⟨.ofInt 1, none, by decide +kernel, Backoff.notNegative_of_none_eq_some⟩

def boundless : RetryPolicy where
  base := .backoff fromOneSecond
  layers := [.jitter (.infinite false) (Binary64.notNegative_infinite_iff.mpr rfl)]

def nothingFirst : Fractions := fun k => if k = 0 then .zero else .ofInt 1

/-- Only the draw of nothing spoils a delay in a jitter without end. -/
theorem spoiled_boundless_iff (drawn : ℕ) (attempt : ℤ) :
    boundless.Spoiled nothingFirst drawn attempt ↔ drawn = 0 := by
  constructor
  · intro hspoiled
    cases hspoiled with
    | base b hb hattempt hnan =>
      obtain rfl : fromOneSecond = b := Base.backoff.inj hb
      have hone : fromOneSecond.base ≠ .nan := by decide +kernel
      exact absurd hnan hone
    | jitter hsome =>
      obtain ⟨max, notNegative, inner, hlayers, hshare⟩ := hsome
      obtain ⟨rfl, rfl⟩ : max = .infinite false ∧ inner = [] := by
        simpa [boundless] using hlayers.eq_of_length_le
      have hzero := (hshare.resolve_left (by simp only [reduceCtorEq, not_false_eq_true])).2
      by_contra hdrawn
      have hone : (Binary64.ofInt 1).le .zero = false := by decide +kernel
      rw [draws, Nat.add_zero, nothingFirst, if_neg hdrawn, hone] at hzero
      cases hzero
  · rintro rfl
    exact .jitter ⟨_, _, [], List.suffix_rfl, .inr ⟨rfl, by decide⟩⟩

/-- The first pause is NaN, and the second one is without end. -/
theorem pauses_boundless :
    let run := Retry.run boundless nothingFirst .none [unanswered, unanswered, unanswered]
    run.sleeps.length = 3 ∧ ∀ k delay, run.sleeps[k]? = some delay →
      (Binary64.zero.le delay.seconds = true ↔ k ≠ 0) := by
  intro run
  have hproper : nothingFirst.Proper := by
    intro k
    unfold nothingFirst
    split_ifs
    · exact Fractions.proper_zero k
    · exact Fractions.proper_one k
  refine ⟨by decide +kernel, fun k delay hsleep => ?_⟩
  have hpauses := pauses_at_least_zero_iff boundless (by simp [boundless]) hproper .none
  obtain ⟨-, hnumber⟩ := hpauses.2.1 Unit _ k delay hsleep
  rw [hnumber, spoiled_boundless_iff]
  simp [Usage.none, boundless, draws]

/-- A base delay that is NaN is accepted, and slept. -/
theorem sleeps_nan : ∃ p fractions, exponential .nan none = .ok p ∧ fractions.Proper ∧
    (Retry.run p fractions .none [unanswered]).sleeps.map Delay.seconds = [.nan] ∧
    Binary64.zero.le .nan = false :=
  ⟨_, fun _ => .zero, rfl, Fractions.proper_zero, by decide +kernel, rfl⟩

end RetryPolicy

end VersionedStore
