import VersionedStore.Proofs.Client.Dialogue
import VersionedStore.Proofs.Config.Policy
import VersionedStore.Proofs.Retry.Bound
import VersionedStore.Proofs.Retry.Schedule

/-!
How long a write pauses under a configuration. The bound on the doublings keeps
the power of two finite, but not its product with the base delay, and nothing
bounds the sum with the jitter. So the pauses after an attempt are finite just if
the longest of them is in the range of the format.
-/

namespace VersionedStore

open Binary64

theorem counts_share_one {max : Binary64} {u : ℕ} (hmax : max.Counts u) :
    (share max (.ofInt 1)).Counts u :=
  (hmax.mul_one counts_one).zero_add

/-- Draws that are the whole all the time. The definition stays closed, for the
number one is a great number of units. -/
@[irreducible]
def Fractions.whole : Fractions := fun _ => .ofInt 1

theorem Fractions.whole_apply (k : ℕ) : Fractions.whole k = .ofInt 1 := by
  unfold Fractions.whole
  rfl

theorem Fractions.proper_whole : Fractions.whole.Proper := by
  unfold Fractions.whole
  exact proper_one

namespace Config

variable {c : Config}

structure Finite (c : Config) : Prop where
  baseDelay : c.baseDelay.val.isFinite = true
  maxDelay : ∀ cap, c.maxDelay = some cap → cap.val.isFinite = true
  maxJitter : c.maxJitter.val.isFinite = true

def capped (c : Config) (delay : ℚ) : ℚ :=
  match c.maxDelay with
  | none => delay
  | some cap => min delay cap.val.toRat

def longest (c : Config) (attempt : ℕ) : ℚ :=
  c.capped (c.baseDelay.val.toRat * 2 ^ min (attempt - 1) 62) + c.maxJitter.val.toRat

/-- Whether a write under the policy of a configuration may pause so long after
some attempt, the first one having number zero. -/
inductive MayPause (c : Config) (k : ℕ) (delay : Delay) : Prop where
  | write (client : Client) (t : Transport) (fractions : Fractions) (usage : Usage)
    (request : Operation.putObject.Request) (reactions : List Reaction)
    (hpolicy : client.policy = c.policy) (hfractions : fractions.Proper)
    (hsleep : (client.call t fractions usage .putObject request reactions).run.sleeps[k]? =
      some delay)

/-- The backoff of a configuration has its numbers. -/
theorem Finite.backoff (hfinite : c.Finite) : c.backoff.Finite where
  base := hfinite.baseDelay
  cap x hx := by
    obtain ⟨cap, hcap, rfl⟩ := Option.map_eq_some_iff.mp hx
    exact hfinite.maxDelay cap hcap

/-- In exact arithmetic the delay doubles 62 times at most, and then stays. -/
theorem exact_backoff (c : Config) (k : ℕ) :
    c.backoff.exact (k + 1 : ℕ) = c.capped (c.baseDelay.val.toRat * 2 ^ min k 62) := by
  have hattempt : ¬((k + 1 : ℕ) : ℤ) < 1 := by omega
  have hdoublings : (min (((k + 1 : ℕ) : ℤ) - 1) 62).toNat = min k 62 := by omega
  have hcap : c.backoff.cap = c.maxDelay.map (·.val) := rfl
  rw [Backoff.exact, if_neg hattempt, Backoff.product, hdoublings, Backoff.limited, hcap, capped]
  cases c.maxDelay <;> rfl

/-- What is left of the delay after an attempt, the jitter aside. -/
theorem Finite.saturates_backoff (hfinite : c.Finite) (k : ℕ) :
    ∃ reach, (c.backoff.seconds (k + 1 : ℕ)).Saturates reach ∧
      c.capped (c.baseDelay.val.toRat * 2 ^ min k 62) = reach / one := by
  rw [← c.exact_backoff k]
  exact hfinite.backoff.saturates_seconds (k + 1 : ℕ)

theorem Finite.counts_jitter (hfinite : c.Finite) : ∃ jitter, c.maxJitter.val.Counts jitter :=
  exists_counts (notNegative_of_zero_le c.maxJitter.property) hfinite.maxJitter

/-- Only the jitter is added to a delay, if there is any. -/
theorem lengthened_policy (fractions : Fractions) (drawn : ℕ) (seconds : Binary64) :
    RetryPolicy.lengthened fractions drawn c.policy.layers seconds =
      if zero.lt c.maxJitter.val then seconds + share c.maxJitter.val (fractions drawn)
      else seconds := by
  change RetryPolicy.lengthened fractions drawn c.jitter seconds = _
  unfold jitter
  split_ifs <;> rfl

theorem bounds_policy_iff {n : ℤ} : c.policy.Bounds n ↔ n = c.maxAttempts.val := by
  have hjitter : ∀ positive, Layer.maxAttempts n positive ∉ c.jitter := by
    intro positive
    unfold jitter
    split_ifs <;> simp
  constructor
  · intro hbound
    obtain ⟨positive, hlayer⟩ := hbound
    rcases List.mem_cons.mp hlayer with hsame | hinner
    · cases hsame
      rfl
    · exact absurd hinner (hjitter positive)
  · rintro rfl
    exact ⟨c.maxAttempts.property, List.mem_cons_self⟩

/-- A pause under the policy of a configuration. -/
theorem sleep_eq_lengthened {α : Type} {tape : List (Attempt α)} {fractions : Fractions}
    {usage : Usage} {k : ℕ} {delay : Delay} (hfractions : fractions.Proper)
    (hsleep : (Retry.run c.policy fractions usage tape).sleeps[k]? = some delay) :
    ((k + 1 : ℕ) : ℤ) < c.maxAttempts.val ∧ ∃ drawn, delay.seconds =
      RetryPolicy.lengthened fractions drawn c.policy.layers (c.backoff.seconds (k + 1 : ℕ)) := by
  obtain ⟨before, e, hdecide, -⟩ := Retry.exists_decision_of_sleep hfractions hsleep
  rw [Nat.add_comm 1 k] at hdecide
  constructor
  · by_contra hbound
    exact (bounds_policy_iff.mpr rfl).decide_ne_retryAfter (by omega) delay hdecide
  · obtain ⟨first, hfirst, hseconds, -⟩ :=
      RetryPolicy.exists_of_decide_eq_retryAfter hfractions hdecide
    obtain ⟨b, hb, hbackoff⟩ := RetryPolicy.exists_backoff_of_base (by simp [policy]) hfirst
    obtain rfl : c.backoff = b := Base.backoff.inj hb
    exact ⟨_, by rw [hseconds, hbackoff]⟩

section Length

variable {reach jitter : ℕ} {fractions : Fractions} {seconds : Binary64}

/-- However much of the jitter is drawn, a delay stays in the range if it does with
all of it. -/
theorem lengthened_isFinite (hseconds : seconds.Saturates reach)
    (hjitter : c.maxJitter.val.Counts jitter) (hfractions : fractions.Proper) (drawn : ℕ)
    (hsmall : reach + jitter < overflow) :
    (RetryPolicy.lengthened fractions drawn c.policy.layers seconds).isFinite = true := by
  rw [lengthened_policy]
  split_ifs
  · obtain ⟨hlow, hhigh⟩ := hfractions drawn
    obtain ⟨w, hw, hshare⟩ := counts_share hjitter hlow hhigh
    rw [hseconds.add_isFinite_iff hshare]
    omega
  · rw [hseconds.isFinite_iff]
    omega

/-- With all of the jitter, a delay is as long as it can get. -/
theorem lengthened_whole_isFinite_iff (hseconds : seconds.Saturates reach)
    (hjitter : c.maxJitter.val.Counts jitter) (drawn : ℕ) :
    (RetryPolicy.lengthened .whole drawn c.policy.layers seconds).isFinite = true ↔
      reach + jitter < overflow := by
  rw [lengthened_policy, Fractions.whole_apply]
  split_ifs with hpositive
  · exact hseconds.add_isFinite_iff (counts_share_one hjitter)
  · rw [counts_zero.lt_iff hjitter] at hpositive
    rw [hseconds.isFinite_iff, Nat.eq_zero_of_not_pos hpositive, Nat.add_zero]

end Length

/-- A write is a run under the policy of its client. -/
theorem exists_tape (client : Client) (t : Transport) (fractions : Fractions) (usage : Usage)
    (request : Operation.putObject.Request) (reactions : List Reaction) :
    ∃ tape, (client.call t fractions usage .putObject request reactions).run =
      Retry.run client.policy fractions usage tape := by
  unfold Client.call
  split
  · exact ⟨_, rfl⟩
  · exact ⟨_, rfl⟩

/-- A pause is a delay of the backoff with its jitter, drawn after some other draws. -/
theorem MayPause.exists_lengthened {k : ℕ} {delay : Delay} (hpause : c.MayPause k delay) :
    ∃ fractions : Fractions, fractions.Proper ∧ ((k + 1 : ℕ) : ℤ) < c.maxAttempts.val ∧
      ∃ drawn, delay.seconds = RetryPolicy.lengthened fractions drawn c.policy.layers
        (c.backoff.seconds (k + 1 : ℕ)) := by
  obtain ⟨client, t, fractions, usage, request, reactions, hpolicy, hfractions, hsleep⟩ := hpause
  obtain ⟨tape, htape⟩ := exists_tape client t fractions usage request reactions
  rw [htape, hpolicy] at hsleep
  exact ⟨fractions, hfractions, sleep_eq_lengthened hfractions hsleep⟩

def down : StoreError := ⟨"down", none, .transport none⟩

def unreached (c : Config) : Client.Dialogue .putObject where
  client := ⟨c.baseUrl, c.policy, jsonContentType⟩
  closes := 0
  fractions := .whole
  usage := .none
  request := ⟨"store", [], [], none⟩
  reactions _ := .failure (.error down)

/-- A store that is out of reach uses up all attempts. -/
theorem unreached_persistent (c : Config) : c.unreached.setting.Persistent := by
  intro k
  have houtcome : (Client.exchange .putObject (.failure (.error down))).outcome =
      .error (.error (down.during Operation.putObject.name)) :=
    Client.exchange_transport rfl
  have hgo : ¬(Base.backoff c.backoff).Stops (down.during Operation.putObject.name) := by
    simp [Base.Stops, down, StoreError.retryable, StoreError.during, Failure.retryable]
  refine ⟨_, Retry.error?_eq_some.mpr houtcome, fun test htest => ?_, fun usage => ?_⟩
  · have hskip : Layer.skip test ∉ c.policy.layers := by
      rw [policy, jitter]
      split_ifs <;> simp
    exact absurd htest hskip
  · obtain ⟨delay, hdelay⟩ := Base.decide_of_not_stops usage (k + 1 : ℕ) (by simp) hgo
    exact ⟨delay, congrArg Prod.fst hdelay⟩

/-- Below the bound on the attempts, such a write pauses after each of them. -/
theorem exists_sleep_of_unreached {k : ℕ} (hk : ((k + 1 : ℕ) : ℤ) < c.maxAttempts.val) :
    ∃ delay, (c.unreached.call (k + 1)).run.sleeps[k]? = some delay := by
  have hstay : ∀ j < k + 1, ∀ ending, ¬c.unreached.setting.Leaves j ending := by
    intro j hj
    refine c.unreached_persistent.not_leaves Fractions.proper_whole fun n hn => ?_
    rw [show n = c.maxAttempts.val from bounds_policy_iff.mp hn]
    omega
  obtain ⟨htraces, -⟩ := Retry.Setting.traces_of_forall_not_leaves hstay
  have hlength := Retry.Setting.length_delays hstay
  rw [Client.Dialogue.call_run_put, htraces.sleeps]
  exact ⟨_, List.getElem?_eq_getElem (by omega)⟩

/-- After every attempt below the bound there may be a pause with the whole jitter. -/
theorem exists_pause_of_whole {k : ℕ} (hk : ((k + 1 : ℕ) : ℤ) < c.maxAttempts.val) :
    ∃ delay, c.MayPause k delay ∧ ∃ drawn, delay.seconds =
      RetryPolicy.lengthened .whole drawn c.policy.layers (c.backoff.seconds (k + 1 : ℕ)) := by
  obtain ⟨delay, hsleep⟩ := exists_sleep_of_unreached hk
  refine ⟨delay, .write _ _ _ _ _ _ rfl Fractions.proper_whole hsleep, ?_⟩
  rw [Client.Dialogue.call_run_put] at hsleep
  exact (sleep_eq_lengthened Fractions.proper_whole hsleep).2

/-- Finite numbers spoil no delay of a policy. -/
theorem Finite.not_spoiled (hfinite : c.Finite) {fractions : Fractions} (drawn : ℕ) (attempt : ℤ) :
    ¬c.policy.Spoiled fractions drawn attempt := by
  refine RetryPolicy.not_spoiled (fun b hb => ?_) (fun max notNegative hlayer => ?_) drawn attempt
  · obtain rfl : c.backoff = b := Base.backoff.inj hb
    exact c.bounded.baseDelay.2
  · obtain rfl : max = c.maxJitter.val := by
      rw [policy, jitter] at hlayer
      split_ifs at hlayer <;> simp at hlayer
      exact hlayer
    exact hfinite.maxJitter

/-- No pause follows the last attempt. -/
theorem MayPause.lt_bound {k : ℕ} {delay : Delay} (hpause : c.MayPause k delay) :
    ((k + 1 : ℕ) : ℤ) < c.maxAttempts.val := by
  obtain ⟨-, -, hbound, -⟩ := hpause.exists_lengthened
  exact hbound

/-- Where the configuration is finite, a pause is a finite number or without end. -/
theorem MayPause.finite_or_infinite (hfinite : c.Finite) {k : ℕ} {delay : Delay}
    (hpause : c.MayPause k delay) :
    delay.seconds.isFinite = true ∨ delay.seconds = .infinite false := by
  obtain ⟨fractions, hfractions, -, drawn, hdelay⟩ := hpause.exists_lengthened
  have hspoiled : ¬c.policy.Spoiled fractions drawn (k + 1 : ℕ) := hfinite.not_spoiled drawn _
  have hnan : delay.seconds ≠ .nan := by
    rw [hdelay, ne_eq, (RetryPolicy.lengthened_eq_nan_iff hfractions drawn
      (c.backoff.notNegative_seconds _)).2, c.backoff.seconds_eq_nan_iff]
    rintro (⟨hattempt, hbase⟩ | hsome)
    · exact hspoiled (.base c.backoff rfl hattempt hbase)
    · exact hspoiled (.jitter hsome)
  have hsign := delay.notNegative
  cases hx : delay.seconds with
  | nan => exact absurd hx hnan
  | finite negative units fits => exact .inl rfl
  | infinite negative =>
    rw [hx, notNegative_infinite_iff] at hsign
    exact .inr (by rw [hsign])

/-- Under a configuration whose numbers are finite, every pause is finite or an
infinity, and the pauses after an attempt are finite just if the longest of them is
below the number from which on sums are rounded to an infinity. -/
theorem pauses_finite_iff (c : Config) (hfinite : c.Finite) :
    (∀ k delay, c.MayPause k delay → ((k + 1 : ℕ) : ℤ) < c.maxAttempts.val ∧
      (delay.seconds.isFinite = true ∨ delay.seconds = .infinite false)) ∧
    ∀ k : ℕ, ((k + 1 : ℕ) : ℤ) < c.maxAttempts.val →
      ((∀ delay, c.MayPause k delay → delay.seconds.isFinite = true) ↔
        c.longest (k + 1) < 2 ^ 1024 - 2 ^ 970) := by
  refine ⟨fun k delay hpause => ⟨hpause.lt_bound, hpause.finite_or_infinite hfinite⟩,
    fun k hk => ?_⟩
  obtain ⟨reach, hreach, hcapped⟩ := hfinite.saturates_backoff k
  obtain ⟨jitter, hjitter⟩ := hfinite.counts_jitter
  have hlongest : c.longest (k + 1) = (reach + jitter : ℕ) / one := by
    rw [longest, Nat.add_sub_cancel, hcapped, hjitter.toRat, Nat.cast_add, add_div]
  rw [hlongest, ← lt_overflow_iff]
  constructor
  · intro hall
    obtain ⟨delay, hpause, drawn, hdelay⟩ := exists_pause_of_whole hk
    rw [← lengthened_whole_isFinite_iff hreach hjitter drawn, ← hdelay]
    exact hall delay hpause
  · intro hsmall delay hpause
    obtain ⟨fractions, hfractions, -, drawn, hdelay⟩ := hpause.exists_lengthened
    rw [hdelay]
    exact lengthened_isFinite hreach hjitter hfractions drawn hsmall

theorem zero_le_pow {k : ℕ} (hk : k ≤ 1023) : zero.le (.ofInt (Nat.pow 2 k : ℕ)) = true := by
  have hcounts := counts_pow hk
  obtain ⟨hsign, negative, fits, hfinite⟩ := hcounts
  rw [zero_le_iff_ne_nan hsign, hfinite]
  nofun

def powerDelay (k : ℕ) (hk : k ≤ 1023) : Field.NonNegativeReal :=
  ⟨.ofInt (Nat.pow 2 k : ℕ), zero_le_pow hk⟩

theorem counts_powerDelay {k : ℕ} (hk : k ≤ 1023) :
    (powerDelay k hk).val.Counts (2 ^ k * one) := by
  have hval : (powerDelay k hk).val = .ofInt (Nat.pow 2 k : ℕ) := by rw [powerDelay]
  rw [hval]
  exact counts_pow hk

def steep : Config where
  baseUrl := "https://vss.test/vss"
  timeout := standardTimeout
  maxAttempts := ⟨standardMaxAttempts, one_le_standardMaxAttempts⟩
  baseDelay := powerDelay 1023 le_rfl
  maxDelay := none
  maxJitter := noJitter

theorem finite_steep : steep.Finite where
  baseDelay := (counts_powerDelay le_rfl).isFinite
  maxDelay cap hcap := by simp [steep] at hcap
  maxJitter := rfl

theorem longest_steep (attempt : ℕ) :
    steep.longest attempt = 2 ^ 1023 * 2 ^ min (attempt - 1) 62 := by
  have hone : (one : ℚ) ≠ 0 := by exact_mod_cast one_pos.ne'
  have hbase : steep.baseDelay.val.toRat = 2 ^ 1023 := by
    have hcounts : steep.baseDelay.val.Counts (2 ^ 1023 * one) := counts_powerDelay le_rfl
    rw [hcounts.toRat, Nat.cast_mul, mul_div_cancel_right₀ _ hone, Nat.cast_pow, Nat.cast_ofNat]
  have hjitter : steep.maxJitter.val.toRat = 0 := by
    have hzero : steep.maxJitter.val.Counts 0 := counts_zero
    rw [hzero.toRat, Nat.cast_zero, zero_div]
  rw [longest, hbase, hjitter, add_zero]
  rfl

/-- One doubling leads out of the range. -/
theorem longest_steep_lt : steep.longest 1 < 2 ^ 1024 - 2 ^ 970 ∧
    2 ^ 1024 - 2 ^ 970 ≤ steep.longest 2 := by
  have hpow : (2 : ℚ) ^ 1024 = 2 ^ 1023 * 2 := pow_succ 2 1023
  have hpos : (0 : ℚ) < 2 ^ 970 := by positivity
  have hlt : (2 : ℚ) ^ 970 < 2 ^ 1023 := pow_lt_pow_right₀ (by norm_num) (by norm_num)
  rw [longest_steep, longest_steep, hpow]
  generalize (2 : ℚ) ^ 1023 = last at hlt ⊢
  generalize (2 : ℚ) ^ 970 = half at hpos hlt ⊢
  constructor
  · norm_num
    linarith
  · norm_num
    linarith

/-- The first pause is finite, and the second one is without end. -/
theorem pauses_of_steep :
    (∀ delay, steep.MayPause 0 delay → delay.seconds.isFinite = true) ∧
      ∃ delay, steep.MayPause 1 delay ∧ delay.seconds = .infinite false := by
  obtain ⟨hpauses, hfinite⟩ := pauses_finite_iff steep finite_steep
  refine ⟨(hfinite 0 (by decide)).mpr longest_steep_lt.1, ?_⟩
  have hsome := (hfinite 1 (by decide)).not.mpr (not_lt.mpr longest_steep_lt.2)
  push Not at hsome
  obtain ⟨delay, hpause, hdelay⟩ := hsome
  exact ⟨delay, hpause, (hpauses 1 delay hpause).2.resolve_left hdelay⟩

def steepMembers : List (String × Raw) :=
  [("base_url", .text "https://vss.test/vss"), ("base_delay_seconds", .real steep.baseDelay.val)]

/-- A configuration of finite numbers, under which a write sleeps for ever. -/
theorem steep_sleeps_infinite : readMembers steepMembers = .ok steep ∧ steep.Finite ∧
    steep.timeout.val.isFinite = true ∧
    ((Client.call ⟨steep.baseUrl, steep.policy, jsonContentType⟩ (.custom 0) (fun _ => .zero) .none
      .putObject ⟨"store", [], [], none⟩
      [.answer ⟨503, .empty⟩, .answer ⟨503, .empty⟩, .answer ⟨200, .empty⟩]).run.sleeps.map
        Delay.seconds) = [steep.baseDelay.val, .infinite false] := by
  refine ⟨?_, finite_steep, ?_, ?_⟩
  · decide +kernel
  · decide +kernel
  · decide +kernel

end Config

end VersionedStore
