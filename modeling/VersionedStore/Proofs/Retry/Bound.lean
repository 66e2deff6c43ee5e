import Mathlib.Data.Int.LeastGreatest
import Mathlib.Order.Bounds.Defs
import VersionedStore.Proofs.Retry.Decision
import VersionedStore.Proofs.Retry.Loop

/-!
Bounds on the number of attempts. The loop itself has none, so that it ends only
because the number of the attempt reaches every layer of a policy unchanged. A
layer that bounds the attempts therefore ends the run from any depth: whatever
lies outside it may stop or fail earlier, and what lies inside it is not asked
any more. A far side that always fails uses up the least of the bounds.
-/

namespace VersionedStore

variable {α : Type}

namespace RetryPolicy

variable {p : RetryPolicy} {fractions : Fractions} {base : Base} {layers : List Layer}
  {usage : Usage} {attempt : ℤ} {e : StoreError} {n : ℤ}

def Bounds (p : RetryPolicy) (n : ℤ) : Prop :=
  ∃ positive, Layer.maxAttempts n positive ∈ p.layers

/-- From its bound on, a layer lets no delay out, whatever its place is. The
induction is on the layers outside it. -/
theorem decideWithin_ne_retryAfter {positive : 1 ≤ n}
    (hlayer : Layer.maxAttempts n positive ∈ layers) (hattempt : n ≤ attempt) (delay : Delay) :
    (decideWithin fractions base layers usage attempt e).1 ≠ .ok (.retryAfter delay) := by
  induction layers generalizing delay with
  | nil => cases hlayer
  | cons l layers ih =>
    rcases List.mem_cons.mp hlayer with rfl | hinner
    · rw [decideWithin, if_pos hattempt]
      simp
    · have hinside := ih hinner
      cases l with
      | maxAttempts k _ =>
        rw [decideWithin]
        split_ifs with hk
        · simp
        · exact hinside delay
      | skip test =>
        rw [decideWithin]
        split
        · simp
        · simp
        · exact hinside delay
      | jitter max _ =>
        -- there is no delay to be lengthened
        rw [decideWithin]
        split
        · next shorter _ hshorter => exact absurd (congrArg Prod.fst hshorter) (hinside shorter)
        · exact hinside delay

/-- From the bound on, there is no other attempt, wherever the layer stands. -/
theorem Bounds.decide_ne_retryAfter (hbound : p.Bounds n) (hattempt : n ≤ attempt) (delay : Delay) :
    (p.decide fractions usage attempt e).1 ≠ .ok (.retryAfter delay) := by
  obtain ⟨positive, hlayer⟩ := hbound
  exact decideWithin_ne_retryAfter hlayer hattempt delay

theorem Bounds.one_le (hbound : p.Bounds n) : 1 ≤ n := hbound.1

/-- A policy with a bound has a least one. -/
theorem exists_isLeast_bound (hbounded : ∃ n, p.Bounds n) :
    ∃ m : ℕ, IsLeast {n | p.Bounds n} (m : ℤ) := by
  obtain ⟨m, hm, hleast⟩ := Int.exists_least_of_bdd (P := p.Bounds) ⟨1, fun _ => Bounds.one_le⟩
    hbounded
  have hpos := hm.one_le
  refine ⟨m.toNat, ?_⟩
  rw [Int.toNat_of_nonneg (by omega)]
  exact ⟨hm, fun n hn => hleast n hn⟩

end RetryPolicy

namespace Retry.Setting

open RetryPolicy

variable {s : Setting α} {m : ℕ}

/-- A bound is the number of an attempt at which the loop is left at the latest. -/
theorem exists_leaves_of_bounds {n : ℤ} (hbound : s.policy.Bounds n) {k : ℕ}
    (hk : n ≤ (k + 1 : ℕ)) : ∃ ending, s.Leaves k ending := by
  by_contra hnone
  obtain ⟨e, delay, herror, hanswer⟩ :=
    forall_not_leaves_iff.mp fun ending hleaves => hnone ⟨ending, hleaves⟩
  rw [s.answer?_eq herror] at hanswer
  exact hbound.decide_ne_retryAfter hk delay (Option.some.inj hanswer)

/-- A bounded run ends after a number of attempts within the bound, however many
outcomes there are left. -/
theorem attempts_le_of_bounds (hbound : s.policy.Bounds m) :
    ∃ n, 1 ≤ n ∧ n ≤ m ∧ ∀ N, n ≤ N →
      (s.run N).ending ≠ .pending ∧ (s.run N).attempts = n := by
  have hpos := hbound.one_le
  obtain ⟨ending, hleaves⟩ := exists_leaves_of_bounds hbound (k := m - 1) (by omega)
  obtain ⟨n, hn, first, hfirst, hstay⟩ := exists_first (N := m) ⟨m - 1, by omega, ending, hleaves⟩
  refine ⟨n + 1, by omega, hn, fun N hN => ?_⟩
  obtain ⟨htraces, hending⟩ := traces_of_leaves hfirst hstay hN
  refine ⟨fun hpending => ?_, htraces.attempts⟩
  have hfinish : first = .pending := hending.symm.trans hpending
  exact not_leaves_pending (hfinish ▸ hfirst)

/-- Whether every attempt fails with an error that no layer picks and at which the
base asks for another attempt, however often it was asked before. -/
def Persistent (s : Setting α) : Prop :=
  ∀ k, ∃ e, error? (s.outcomes k) = some e ∧
    (∀ test, .skip test ∈ s.policy.layers → test e = .ok false) ∧
    ∀ usage, ∃ delay, (s.policy.base.decide usage (k + 1 : ℕ) e).1 = .ok (.retryAfter delay)

namespace Persistent

/-- The error of an attempt, and what the layers and the base make of it. -/
theorem exists_error (hpersistent : s.Persistent) (k : ℕ) :
    ∃ e, error? (s.outcomes k) = some e ∧ (∀ l ∈ s.policy.layers, l.Answers e) ∧
      (∀ l ∈ s.policy.layers, l.Stops (k + 1 : ℕ) e → ∃ n, s.policy.Bounds n ∧ n ≤ (k + 1 : ℕ)) ∧
      ∃ delay, (s.policy.base.decide (s.usageAfter k) (k + 1 : ℕ) e).1 =
        .ok (.retryAfter delay) := by
  obtain ⟨e, herror, hskip, hbase⟩ := hpersistent k
  refine ⟨e, herror, fun l hl => ?_, fun l hl hstops => ?_, hbase _⟩
  · cases l with
    | skip test => exact ⟨false, hskip test hl⟩
    | _ => trivial
  · cases l with
    | maxAttempts n positive => exact ⟨n, ⟨positive, hl⟩, hstops⟩
    | jitter max notNegative => exact hstops.elim
    | skip test =>
      have hpicked : test e = .ok true := hstops
      simp [hskip test hl] at hpicked

/-- Below all bounds a persistent failure is answered with another attempt. -/
theorem not_leaves (hpersistent : s.Persistent) (hfractions : s.fractions.Proper) {k : ℕ}
    (hbelow : ∀ n, s.policy.Bounds n → (k + 1 : ℕ) < n) (ending : Ending α) :
    ¬s.Leaves k ending := by
  obtain ⟨e, herror, hanswers, hstops, delay, hdelay⟩ := hpersistent.exists_error k
  have hgo : ∀ l ∈ s.policy.layers, ¬l.Stops (k + 1 : ℕ) e := by
    intro l hl hlayer
    obtain ⟨n, hbound, hn⟩ := hstops l hl hlayer
    exact Int.not_le.mpr (hbelow n hbound) hn
  rcases hbase : s.policy.base.decide (s.usageAfter k) (k + 1 : ℕ) e with ⟨decision, after⟩
  obtain rfl : decision = .ok (.retryAfter delay) := by rw [← hdelay, hbase]
  obtain ⟨longer, -, hlonger⟩ := decideWithin_of_base_retryAfter hanswers hgo hfractions hbase
  refine forall_not_leaves_iff.mpr ⟨e, longer, herror, ?_⟩ ending
  rw [s.answer?_eq herror, RetryPolicy.decide, hlonger]

/-- At a bound the policy stops, and the error of the attempt is what the run ends
with. -/
theorem leaves (hpersistent : s.Persistent) {n : ℤ} (hbound : s.policy.Bounds n) {k : ℕ}
    (hk : n ≤ (k + 1 : ℕ)) :
    ∃ e, error? (s.outcomes k) = some e ∧ s.Leaves k (.raised (.error e)) := by
  obtain ⟨e, herror, hanswers, -⟩ := hpersistent.exists_error k
  obtain ⟨positive, hlayer⟩ := hbound
  refine ⟨e, herror, .stopped e (error?_eq_some.mp herror) ?_⟩
  rw [s.answer?_eq herror, RetryPolicy.decide, decideWithin_of_stops hanswers ⟨_, hlayer, hk⟩]

end Persistent

/-- A persistent failure uses up the least bound, with a pause after every attempt
but the last, whose error is what the run ends with. -/
theorem persistent_uses_up_bound (hleast : IsLeast {n | s.policy.Bounds n} (m : ℤ))
    (hfractions : s.fractions.Proper) (hpersistent : s.Persistent) {N : ℕ} (hN : m ≤ N) :
    (s.run N).attempts = m ∧ (s.run N).sleeps.length = m - 1 ∧
      ∃ e, error? (s.outcomes (m - 1)) = some e ∧ (s.run N).ending = .raised (.error e) := by
  have hpos : (1 : ℤ) ≤ m := hleast.1.one_le
  have hstay : ∀ k < m - 1, ∀ ending, ¬s.Leaves k ending := by
    intro k hk
    refine hpersistent.not_leaves hfractions fun n hn => ?_
    have hmin : (m : ℤ) ≤ n := hleast.2 hn
    omega
  obtain ⟨e, herror, hleaves⟩ := hpersistent.leaves hleast.1 (k := m - 1) (by omega)
  obtain ⟨htraces, hending⟩ := traces_of_leaves hleaves hstay (N := N) (by omega)
  refine ⟨?_, ?_, e, herror, hending⟩
  · rw [htraces.attempts]
    omega
  · rw [htraces.sleeps, delays_succ_of_leaves hleaves, length_delays hstay]

/-- A policy with a bound ends every run within the least of its bounds, whatever
its base, its other layers and the outcomes are; a persistent failure uses that
bound up. -/
theorem run_ends_within_least_bound (s : Setting α) (hbounded : ∃ n, s.policy.Bounds n) :
    ∃ m : ℕ, IsLeast {n | s.policy.Bounds n} (m : ℤ) ∧
      (∃ n, 1 ≤ n ∧ n ≤ m ∧ ∀ N, n ≤ N →
        (s.run N).ending ≠ .pending ∧ (s.run N).attempts = n) ∧
      (s.fractions.Proper → s.Persistent → ∀ N, m ≤ N →
        (s.run N).attempts = m ∧ (s.run N).sleeps.length = m - 1 ∧
          ∃ e, error? (s.outcomes (m - 1)) = some e ∧
            (s.run N).ending = .raised (.error e)) := by
  obtain ⟨m, hleast⟩ := exists_isLeast_bound hbounded
  exact ⟨m, hleast, attempts_le_of_bounds hleast.1, fun hfractions hpersistent _ hN =>
    persistent_uses_up_bound hleast hfractions hpersistent hN⟩

def deeplyBounded : Setting Unit where
  policy :=
    { base := .custom fun _ _ _ => .ok (.retryAfter ⟨.zero, Binary64.notNegative_zero⟩)
      layers := [.maxAttempts 7 (by decide), .jitter .zero Binary64.notNegative_zero,
        .skip fun e => .ok (e.kind == .client), .maxAttempts 3 (by decide)] }
  fractions _ := .zero
  usage := .none
  outcomes k := ⟨.error (.error ⟨k.repr, none, .transport none⟩), []⟩

/-- The bound deep inside decides, though the one outside is higher. -/
theorem run_deeplyBounded :
    (deeplyBounded.run 9).attempts = 3 ∧ (deeplyBounded.run 9).sleeps.length = 2 ∧
      (deeplyBounded.run 9).ending = .raised (.error ⟨"2", none, .transport none⟩) := by
  have hbounds : ∀ n, deeplyBounded.policy.Bounds n ↔ n = 7 ∨ n = 3 := by
    intro n
    constructor
    · intro hbound
      obtain ⟨positive, hlayer⟩ := hbound
      simpa [deeplyBounded] using hlayer
    · intro hn
      rcases hn with rfl | rfl
      · exact ⟨by decide, .head _⟩
      · exact ⟨by decide, .tail _ (.tail _ (.tail _ (.head _)))⟩
  have hfraction : Binary64.zero.le .zero = true ∧ Binary64.zero.le (.ofInt 1) = true := by
    decide +kernel
  have hpersistent : deeplyBounded.Persistent := by
    intro k
    refine ⟨⟨k.repr, none, .transport none⟩, rfl, fun test htest => ?_, fun _ => ⟨_, rfl⟩⟩
    obtain rfl : test = fun e => .ok (e.kind == .client) := by simpa [deeplyBounded] using htest
    rfl
  obtain ⟨m, hleast, -, hpersists⟩ :=
    run_ends_within_least_bound deeplyBounded ⟨3, (hbounds 3).mpr (.inr rfl)⟩
  have hle : (m : ℤ) ≤ 3 := hleast.2 ((hbounds 3).mpr (.inr rfl))
  have hm : m = 3 := by
    rcases (hbounds m).mp hleast.1 with hm | hm <;> omega
  subst hm
  obtain ⟨hattempts, hsleeps, e, herror, hending⟩ :=
    hpersists (fun _ => hfraction) hpersistent 9 (by decide)
  obtain rfl := Option.some.inj herror
  exact ⟨hattempts, hsleeps, hending⟩

end Retry.Setting

end VersionedStore
