import VersionedStore.BaseUrl
import VersionedStore.Field.Scalar
import VersionedStore.Field.Record
import VersionedStore.Retry.Standard

/-!
The configuration of a client. A configuration that exists keeps its bounds, so
that it always yields a policy: exponential backoff, then jitter if there is
any, and around them the bound on the attempts.
-/

namespace VersionedStore

open VersionedStore.Field

structure Config where
  baseUrl : String
  timeout : PositiveReal
  maxAttempts : { n : Int // 1 ≤ n }
  baseDelay : NonNegativeReal
  maxDelay : Option NonNegativeReal
  maxJitter : NonNegativeReal
  deriving DecidableEq

theorem notNegative_of_zero_le {x : Binary64} (h : Binary64.zero.le x = true) : NotNegative x := by
  have hz : Binary64.zero.rank? = some 0 := rfl
  unfold Binary64.le at h
  unfold NotNegative Binary64.lt
  rw [hz] at h ⊢
  cases hx : x.rank? with
  | none => rfl
  | some b =>
    rw [hx] at h
    simp only [decide_eq_true_eq] at h
    simp only [decide_eq_false_iff_not]
    omega

namespace Config

def standardTimeout : PositiveReal := ⟨.ofInt 30, by decide +kernel⟩

def noJitter : NonNegativeReal := ⟨.zero, by decide +kernel⟩

def title : String := "VssClientConfig"

def readBaseUrl (r : Raw) : Checked String :=
  match nonEmptyText r with
  | .error issues => .error issues
  | .ok text =>
    match BaseUrl.check text with
    | .ok url => .ok url
    | .error f => fail (.rejected f.message)

def readMembers (ms : List (String × Raw)) : Checked Config :=
  .ok Config.mk
    |> Checked.also (required ms "base_url" readBaseUrl)
    |> Checked.also (withDefault ms "timeout_seconds" standardTimeout realAboveZero)
    |> Checked.also (withDefault ms "max_attempts" ⟨standardMaxAttempts, one_le_standardMaxAttempts⟩
        (integerAtLeast 1))
    |> Checked.also (withDefault ms "base_delay_seconds"
        ⟨standardBaseDelay, by decide +kernel⟩ realAtLeastZero)
    |> Checked.also (withDefault ms "max_delay_seconds" none (optional realAtLeastZero))
    |> Checked.also (withDefault ms "max_jitter_seconds" noJitter realAtLeastZero)

def backoff (c : Config) : Backoff where
  base := c.baseDelay
  cap := c.maxDelay.map (·.val)
  baseNotNegative := notNegative_of_zero_le c.baseDelay.property
  capNotNegative := by
    intro x hx
    obtain ⟨y, _, rfl⟩ := Option.map_eq_some_iff.mp hx
    exact notNegative_of_zero_le y.property

def jitter (c : Config) : List Layer :=
  if Binary64.zero.lt c.maxJitter then
    [.jitter c.maxJitter (notNegative_of_zero_le c.maxJitter.property)]
  else []

def policy (c : Config) : RetryPolicy where
  base := .backoff c.backoff
  layers := .maxAttempts c.maxAttempts c.maxAttempts.property :: c.jitter

def jittered (c : Config) (p : RetryPolicy) : Except Fault RetryPolicy :=
  if Binary64.zero.lt c.maxJitter.val then p.withMaxJitter c.maxJitter.val else .ok p

/-- The policy of a configuration, made by the constructors that check what they are
given. -/
def builtPolicy (c : Config) : Except Fault RetryPolicy := do
  let backoff ← RetryPolicy.exponential c.baseDelay.val (c.maxDelay.map Subtype.val)
  let jittered ← c.jittered backoff
  jittered.withMaxAttempts c.maxAttempts.val

end Config

end VersionedStore
