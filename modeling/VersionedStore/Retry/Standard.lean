import VersionedStore.Retry.Policy

/-!
The policy that a client follows when it is given none: ten attempts, with
delays that double from a hundredth of a second on.
-/

namespace VersionedStore

def standardBaseDelay : Binary64 := .ofDecimal ⟨false, 1, -2⟩

def standardMaxAttempts : Int := 10

theorem notNegative_standardBaseDelay : NotNegative standardBaseDelay := by decide +kernel

theorem one_le_standardMaxAttempts : 1 ≤ standardMaxAttempts := by decide

def RetryPolicy.standard : RetryPolicy where
  base := .backoff ⟨standardBaseDelay, none, notNegative_standardBaseDelay,
    Backoff.notNegative_of_none_eq_some⟩
  layers := [.maxAttempts standardMaxAttempts one_le_standardMaxAttempts]

end VersionedStore
