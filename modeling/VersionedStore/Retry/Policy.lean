import VersionedStore.Retry.Delay

/-!
Policies that decide after a failed attempt whether there will be another one.
A policy is a base inside layers. Layers that bound the attempts or skip an
error decide before what is inside them is asked; a layer of jitter asks first
and lengthens the delay that it gets.
-/

namespace VersionedStore

/-- Delays that double with every attempt, up to a cap if there is one. -/
structure Backoff where
  base : Binary64
  cap : Option Binary64
  baseNotNegative : NotNegative base
  capNotNegative : ∀ c, cap = some c → NotNegative c

namespace Backoff

theorem notNegative_of_none_eq_some (c : Binary64) (h : none = some c) : NotNegative c :=
  nomatch h

def of (base : Binary64) (cap : Option Binary64) : Except Fault Backoff :=
  if hb : NotNegative base then
    match cap with
    | none => .ok ⟨base, none, hb, notNegative_of_none_eq_some⟩
    | some c =>
      if hc : NotNegative c then .ok ⟨base, some c, hb, by simp [hc]⟩
      else .error (belowBound "max_delay_seconds" "0" c.text)
  else .error (belowBound "base_delay_seconds" "0" base.text)

def maxDoublings : Int := 62

def uncapped (b : Backoff) (attempt : Int) : Binary64 :=
  b.base * Binary64.ofInt (Nat.pow 2 (min (attempt - 1) maxDoublings).toNat)

/-- The delay after an attempt. Attempts are counted from one on. -/
def seconds (b : Backoff) (attempt : Int) : Binary64 :=
  if attempt < 1 then .zero
  else
    let delay := b.uncapped attempt
    match b.cap with
    | none => delay
    | some cap => if cap.lt delay then cap else delay

end Backoff

/-- What a policy has used up so far: random draws, and consultations of a
caller's own base. -/
structure Usage where
  draws : Nat
  consultations : Nat
  deriving DecidableEq, Repr

namespace Usage

def none : Usage := ⟨0, 0⟩

end Usage

/-- The innermost part of a policy. A caller's own base is consulted with the
number of consultations before, the attempt and its error. -/
inductive Base where
  | never
  | backoff (b : Backoff)
  | custom (answer : Nat → Int → StoreError → Except Fault Decision)

inductive Layer where
  | maxAttempts (n : Int) (positive : 1 ≤ n)
  | jitter (max : Binary64) (notNegative : NotNegative max)
  | skip (test : StoreError → Except Fault Bool)

/-- A base in layers, the outermost layer first. -/
structure RetryPolicy where
  base : Base
  layers : List Layer

/-- The random fractions between zero and one, by the number of the draw. -/
abbrev Fractions := Nat → Binary64

def share (max fraction : Binary64) : Binary64 := .zero + max * fraction

namespace Base

def decide : Base → Usage → Int → StoreError → Except Fault Decision × Usage
  | .never, usage, _, _ => (.ok .stop, usage)
  | .backoff b, usage, attempt, e =>
    if e.retryable then ((Delay.ofSeconds (b.seconds attempt)).map .retryAfter, usage)
    else (.ok .stop, usage)
  | .custom answer, usage, attempt, e =>
    (answer usage.consultations attempt e,
      { usage with consultations := usage.consultations + 1 })

end Base

namespace RetryPolicy

def decideWithin (fractions : Fractions) (base : Base) :
    List Layer → Usage → Int → StoreError → Except Fault Decision × Usage
  | [], usage, attempt, e => base.decide usage attempt e
  | .maxAttempts n _ :: layers, usage, attempt, e =>
    if n ≤ attempt then (.ok .stop, usage)
    else decideWithin fractions base layers usage attempt e
  | .skip test :: layers, usage, attempt, e =>
    match test e with
    | .error f => (.error f, usage)
    | .ok true => (.ok .stop, usage)
    | .ok false => decideWithin fractions base layers usage attempt e
  | .jitter max _ :: layers, usage, attempt, e =>
    match decideWithin fractions base layers usage attempt e with
    | (.ok (.retryAfter delay), usage) =>
      ((Delay.ofSeconds (delay.seconds + share max (fractions usage.draws))).map .retryAfter,
        { usage with draws := usage.draws + 1 })
    | other => other

def decide (p : RetryPolicy) (fractions : Fractions) (usage : Usage) (attempt : Int)
    (e : StoreError) : Except Fault Decision × Usage :=
  decideWithin fractions p.base p.layers usage attempt e

def never : RetryPolicy := ⟨.never, []⟩

def exponential (base : Binary64) (cap : Option Binary64) : Except Fault RetryPolicy :=
  (Backoff.of base cap).map fun b => ⟨.backoff b, []⟩

def custom (answer : Nat → Int → StoreError → Except Fault Decision) : RetryPolicy :=
  ⟨.custom answer, []⟩

def wrap (p : RetryPolicy) (layer : Layer) : RetryPolicy :=
  { p with layers := layer :: p.layers }

def withMaxAttempts (p : RetryPolicy) (n : Int) : Except Fault RetryPolicy :=
  if h : 1 ≤ n then .ok (p.wrap (.maxAttempts n h))
  else .error (belowBound "max_attempts" "1" n.repr)

def withMaxJitter (p : RetryPolicy) (max : Binary64) : Except Fault RetryPolicy :=
  if h : NotNegative max then .ok (p.wrap (.jitter max h))
  else .error (belowBound "max_jitter_seconds" "0" max.text)

def skipping (p : RetryPolicy) (test : StoreError → Except Fault Bool) : RetryPolicy :=
  p.wrap (.skip test)

end RetryPolicy

end VersionedStore
