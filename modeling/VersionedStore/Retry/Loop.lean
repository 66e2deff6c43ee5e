import VersionedStore.Retry.Policy
import VersionedStore.Failure.Notice

/-!
Repeated attempts under a policy. Attempts come one after another from a tape
that holds what each of them would end with. The first attempt that returns,
that fails with a fault, or at which the policy stops or fails itself ends the
run; the rest of the tape is never looked at.
-/

namespace VersionedStore

structure Attempt (α : Type) where
  outcome : Except Raised α
  notices : List Notice

/-- How a run of attempts ends. It is pending while every attempt so far has
asked for another one. -/
inductive Ending (α : Type) where
  | returned (value : α)
  | raised (r : Raised)
  | policyRaised (f : Fault)
  | pending

inductive Next (α : Type) where
  | finish (ending : Ending α)
  | again (delay : Delay)

/-- The judgement of an attempt: what comes next, whether the policy was asked
about an error, the notices of the attempt and of the loop, and the usage. -/
structure Judgement (α : Type) where
  next : Next α
  asked : Option StoreError
  notices : List Notice
  usage : Usage

/-- A run: how many attempts were made, which errors the policy was asked
about, the delays between the attempts, the notices, and the ending. -/
structure Run (α : Type) where
  attempts : Nat
  consulted : List (Nat × StoreError)
  sleeps : List Delay
  notices : List Notice
  usage : Usage
  ending : Ending α

namespace Retry

def givingUp (attempt : Nat) (e : StoreError) : List Notice :=
  if 1 < attempt then [.gaveUp attempt e.text e.kind] else []

def judge {α : Type} (policy : RetryPolicy) (fractions : Fractions) (usage : Usage)
    (attempt : Nat) (a : Attempt α) : Judgement α :=
  match a.outcome with
  | .ok x => ⟨.finish (.returned x), none, a.notices, usage⟩
  | .error (.fault f) => ⟨.finish (.raised (.fault f)), none, a.notices, usage⟩
  | .error (.error e) =>
    match policy.decide fractions usage attempt e with
    | (.error f, usage) => ⟨.finish (.policyRaised f), some e, a.notices, usage⟩
    | (.ok .stop, usage) =>
      ⟨.finish (.raised (.error e)), some e, a.notices ++ givingUp attempt e, usage⟩
    | (.ok (.retryAfter delay), usage) =>
      ⟨.again delay, some e,
        a.notices ++ [.retrying attempt e.text e.kind delay.seconds], usage⟩

def runFrom {α : Type} (policy : RetryPolicy) (fractions : Fractions) (usage : Usage)
    (attempt : Nat) : List (Attempt α) → Run α
  | [] => ⟨0, [], [], [], usage, .pending⟩
  | a :: rest =>
    let j := judge policy fractions usage attempt a
    let asked := j.asked.toList.map fun e => (attempt, e)
    match j.next with
    | .finish ending => ⟨1, asked, [], j.notices, j.usage, ending⟩
    | .again delay =>
      let r := runFrom policy fractions j.usage (attempt + 1) rest
      { r with
        attempts := r.attempts + 1
        consulted := asked ++ r.consulted
        sleeps := delay :: r.sleeps
        notices := j.notices ++ r.notices }

def run {α : Type} (policy : RetryPolicy) (fractions : Fractions) (usage : Usage)
    (tape : List (Attempt α)) : Run α :=
  runFrom policy fractions usage 1 tape

end Retry

end VersionedStore
