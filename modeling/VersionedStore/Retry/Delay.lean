import VersionedStore.Failure.StoreError
import VersionedStore.Number.Shortest

/-!
Decisions about another attempt. A delay is never below zero; whoever asks for
one that is gets a fault instead. It may be infinite or no number at all.
-/

namespace VersionedStore

def belowBound (name bound given : String) : Fault :=
  ⟨.badValue, name ++ " must be >= " ++ bound ++ ", got " ++ given⟩

/-- Numbers that are not below zero, NaN among them. -/
def NotNegative (x : Binary64) : Prop := x.lt .zero = false

instance (x : Binary64) : Decidable (NotNegative x) :=
  inferInstanceAs (Decidable (_ = _))

structure Delay where
  seconds : Binary64
  notNegative : NotNegative seconds
  deriving DecidableEq

namespace Delay

def ofSeconds (x : Binary64) : Except Fault Delay :=
  if h : NotNegative x then .ok ⟨x, h⟩ else .error (belowBound "delay_seconds" "0" x.text)

end Delay

inductive Decision where
  | stop
  | retryAfter (delay : Delay)
  deriving DecidableEq

end VersionedStore
