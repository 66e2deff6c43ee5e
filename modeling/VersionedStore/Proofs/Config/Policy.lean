import VersionedStore.Proofs.Field.Record
import VersionedStore.Client.Basic

/-!
What a configuration can be relied on for. Its numbers are within their bounds,
and so no constructor on the way to its policy refuses them; its address is
accepted again by the client.
-/

namespace VersionedStore

open VersionedStore.Field

/-- Numbers that compare with zero are numbers. -/
theorem Binary64.ne_nan_of_zero_le {x : Binary64} (h : Binary64.zero.le x = true) : x ≠ .nan := by
  rintro rfl
  cases h

theorem Binary64.ne_nan_of_zero_lt {x : Binary64} (h : Binary64.zero.lt x = true) : x ≠ .nan := by
  rintro rfl
  cases h

namespace Config

/-- The bounds of a configuration. NaN is within none of them. -/
structure Bounded (c : Config) : Prop where
  timeout : Binary64.zero.lt c.timeout.val = true ∧ c.timeout.val ≠ .nan
  maxAttempts : 1 ≤ c.maxAttempts.val
  baseDelay : Binary64.zero.le c.baseDelay.val = true ∧ c.baseDelay.val ≠ .nan
  maxDelay : ∀ x, c.maxDelay.map Subtype.val = some x → Binary64.zero.le x = true ∧ x ≠ .nan
  maxJitter : Binary64.zero.le c.maxJitter.val = true ∧ c.maxJitter.val ≠ .nan

/-- The types of the fields carry the bounds. -/
theorem bounded (c : Config) : c.Bounded where
  timeout := ⟨c.timeout.property, Binary64.ne_nan_of_zero_lt c.timeout.property⟩
  maxAttempts := c.maxAttempts.property
  baseDelay := ⟨c.baseDelay.property, Binary64.ne_nan_of_zero_le c.baseDelay.property⟩
  maxDelay x hx := by
    obtain ⟨y, -, rfl⟩ := Option.map_eq_some_iff.mp hx
    exact ⟨y.property, Binary64.ne_nan_of_zero_le y.property⟩
  maxJitter := ⟨c.maxJitter.property, Binary64.ne_nan_of_zero_le c.maxJitter.property⟩

theorem backoff_of (c : Config) :
    Backoff.of c.baseDelay.val (c.maxDelay.map Subtype.val) = .ok c.backoff := by
  have hbase := notNegative_of_zero_le c.baseDelay.property
  unfold Backoff.of backoff
  rw [dif_pos hbase]
  obtain ⟨baseUrl, timeout, maxAttempts, baseDelay, maxDelay, maxJitter⟩ := c
  cases maxDelay with
  | none => rfl
  | some cap =>
    have hcap := notNegative_of_zero_le cap.property
    simp only [Option.map_some, dif_pos hcap]

/-- A layer of jitter is added only where there is jitter to draw. -/
theorem jittered_eq_ok (c : Config) (base : Base) :
    c.jittered ⟨base, []⟩ = .ok ⟨base, c.jitter⟩ := by
  unfold jittered jitter
  by_cases hpositive : Binary64.zero.lt c.maxJitter.val = true
  · rw [if_pos hpositive, if_pos hpositive, RetryPolicy.withMaxJitter,
      dif_pos (notNegative_of_zero_le c.maxJitter.property)]
    rfl
  · rw [if_neg hpositive, if_neg hpositive]

/-- No constructor refuses what a configuration holds. -/
theorem builtPolicy_eq_ok (c : Config) : c.builtPolicy = .ok c.policy := by
  have hbackoff : RetryPolicy.exponential c.baseDelay.val (c.maxDelay.map Subtype.val) =
      .ok ⟨.backoff c.backoff, []⟩ := by
    rw [RetryPolicy.exponential, backoff_of]
    rfl
  rw [builtPolicy, Checked.bind_eq_ok]
  refine ⟨_, hbackoff, ?_⟩
  rw [Checked.bind_eq_ok]
  refine ⟨_, c.jittered_eq_ok (.backoff c.backoff), ?_⟩
  rw [RetryPolicy.withMaxAttempts, dif_pos c.maxAttempts.property]
  rfl

/-- A client can be had of a configuration whose address passes the check once more. -/
theorem ofConfig_eq_ok {c : Config} (h : BaseUrl.check c.baseUrl = .ok c.baseUrl) :
    Client.ofConfig c =
      .ok (⟨c.baseUrl, c.policy, jsonContentType⟩, .http (.opened c.timeout)) := by
  have hclient : Client.of c.baseUrl c.policy jsonContentType =
      .ok ⟨c.baseUrl, c.policy, jsonContentType⟩ := by
    rw [Client.of, h]
    rfl
  rw [Client.ofConfig, Checked.bind_eq_ok]
  refine ⟨_, builtPolicy_eq_ok c, ?_⟩
  rw [Checked.bind_eq_ok]
  exact ⟨_, hclient, rfl⟩

end Config

end VersionedStore
