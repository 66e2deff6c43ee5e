import Mathlib.Data.List.Basic
import VersionedStore.Retry.Loop

/-!
A single attempt in the loop, and how runs over pieces of a tape fit together.
The loop is left in one of four ways; after any other attempt it goes on with
the rest of the tape.
-/

namespace VersionedStore

variable {α : Type}

namespace Run

def andThen (r s : Run α) : Run α :=
  ⟨r.attempts + s.attempts, r.consulted ++ s.consulted, r.sleeps ++ s.sleeps,
    r.notices ++ s.notices, s.usage, s.ending⟩

end Run

namespace Next

def sleeps : Next α → List Delay
  | .finish _ => []
  | .again delay => [delay]

def ending : Next α → Ending α
  | .finish ending => ending
  | .again _ => .pending

end Next

namespace Retry

def error? (a : Attempt α) : Option StoreError :=
  match a.outcome with
  | .error (.error e) => some e
  | _ => none

theorem error?_eq_some {a : Attempt α} {e : StoreError} :
    error? a = some e ↔ a.outcome = .error (.error e) := by
  obtain ⟨outcome, notices⟩ := a
  match outcome with
  | .ok x => simp [error?]
  | .error (.fault f) => simp [error?]
  | .error (.error e) => simp [error?]

def delay? : Except Fault Decision → Option Delay
  | .ok (.retryAfter delay) => some delay
  | _ => none

/-- How the loop is left at an attempt, given what the policy answers to the
error that the attempt may have ended with. -/
inductive Leaves (a : Attempt α) (answer : Option (Except Fault Decision)) : Ending α → Prop where
  | returned (x : α) (ha : a.outcome = .ok x) : Leaves a answer (.returned x)
  | fault (f : Fault) (ha : a.outcome = .error (.fault f)) :
    Leaves a answer (.raised (.fault f))
  | stopped (e : StoreError) (ha : a.outcome = .error (.error e))
    (hanswer : answer = some (.ok .stop)) : Leaves a answer (.raised (.error e))
  | policyRaised (e : StoreError) (f : Fault) (ha : a.outcome = .error (.error e))
    (hanswer : answer = some (.error f)) : Leaves a answer (.policyRaised f)

theorem not_leaves_pending {a : Attempt α} {answer : Option (Except Fault Decision)} :
    ¬Leaves a answer .pending := nofun

def remarks (attempt : ℕ) (a : Attempt α) (answer : Option (Except Fault Decision)) :
    List Notice :=
  match error? a, answer with
  | some e, some (.ok (.retryAfter delay)) => [.retrying attempt e.text e.kind delay.seconds]
  | some e, some (.ok .stop) => givingUp attempt e
  | _, _ => []

/-- An attempt that is followed by another one is worth a notice with the delay. -/
theorem remarks_retryAfter {attempt : ℕ} {a : Attempt α} {e : StoreError} {delay : Delay}
    (herror : error? a = some e) :
    remarks attempt a (some (.ok (.retryAfter delay))) =
      [.retrying attempt e.text e.kind delay.seconds] := by
  simp only [remarks, herror]

theorem remarks_stop {attempt : ℕ} {a : Attempt α} {e : StoreError} (herror : error? a = some e) :
    remarks attempt a (some (.ok .stop)) = givingUp attempt e := by
  simp only [remarks, herror]

theorem remarks_of_error?_eq_none {attempt : ℕ} {a : Attempt α}
    {answer : Option (Except Fault Decision)} (herror : error? a = none) :
    remarks attempt a answer = [] := by
  simp [remarks, herror]

/-- If the policy itself fails, nothing is said. -/
theorem remarks_policyRaised {attempt : ℕ} {a : Attempt α} {f : Fault} :
    remarks attempt a (some (.error f)) = [] := by
  simp [remarks]

section

variable (policy : RetryPolicy) (fractions : Fractions) (usage : Usage) (attempt : ℕ)

def answer? (a : Attempt α) : Option (Except Fault Decision) :=
  (error? a).map fun e => (policy.decide fractions usage attempt e).1

def usageAfter (asked : List (ℕ × StoreError)) : Usage :=
  asked.foldl (fun u q => (policy.decide fractions u q.1 q.2).2) usage

/-- The judgement of an attempt asks the policy about its error and about
nothing else. -/
theorem judge_eq (a : Attempt α) :
    let j := judge policy fractions usage attempt a
    j.asked = error? a ∧
      j.usage = usageAfter policy fractions usage ((error? a).toList.map fun e => (attempt, e)) ∧
      j.notices = a.notices ++ remarks attempt a (answer? policy fractions usage attempt a) ∧
      j.next.sleeps = ((answer? policy fractions usage attempt a).bind delay?).toList := by
  obtain ⟨outcome, notices⟩ := a
  match outcome with
  | .ok x => simp [judge, error?, answer?, usageAfter, remarks, Next.sleeps]
  | .error (.fault f) => simp [judge, error?, answer?, usageAfter, remarks, Next.sleeps]
  | .error (.error e) =>
    rcases hdecide : policy.decide fractions usage attempt e with ⟨f | stop | delay, after⟩ <;>
      simp [judge, error?, answer?, usageAfter, remarks, delay?, Next.sleeps, hdecide]

/-- An attempt leaves the loop just if its judgement is the end of the run. -/
theorem leaves_iff (a : Attempt α) (ending : Ending α) :
    Leaves a (answer? policy fractions usage attempt a) ending ↔
      (judge policy fractions usage attempt a).next = .finish ending := by
  constructor
  · intro hleaves
    cases hleaves with
    | returned x ha => simp only [judge, ha]
    | fault f ha => simp only [judge, ha]
    | stopped e ha hanswer =>
      rcases hdecide : policy.decide fractions usage attempt e with ⟨decision, after⟩
      obtain rfl : decision = .ok .stop := by simpa [answer?, error?, ha, hdecide] using hanswer
      simp only [judge, ha, hdecide]
    | policyRaised e f ha hanswer =>
      rcases hdecide : policy.decide fractions usage attempt e with ⟨decision, after⟩
      obtain rfl : decision = .error f := by simpa [answer?, error?, ha, hdecide] using hanswer
      simp only [judge, ha, hdecide]
  · intro hnext
    match ha : a.outcome with
    | .ok x =>
      simp only [judge, ha] at hnext
      obtain rfl := Next.finish.inj hnext
      exact .returned x ha
    | .error (.fault f) =>
      simp only [judge, ha] at hnext
      obtain rfl := Next.finish.inj hnext
      exact .fault f ha
    | .error (.error e) =>
      rcases hdecide : policy.decide fractions usage attempt e with ⟨f | stop | delay, after⟩ <;>
        simp only [judge, ha, hdecide] at hnext
      · obtain rfl := Next.finish.inj hnext
        exact .policyRaised e f ha (by simp [answer?, error?, ha, hdecide])
      · obtain rfl := Next.finish.inj hnext
        exact .stopped e ha (by simp [answer?, error?, ha, hdecide])
      · cases hnext

theorem runFrom_singleton (a : Attempt α) :
    runFrom policy fractions usage attempt [a] =
      let j := judge policy fractions usage attempt a
      ⟨1, j.asked.toList.map fun e => (attempt, e), j.next.sleeps, j.notices, j.usage,
        j.next.ending⟩ := by
  rw [runFrom]
  cases hnext : (judge policy fractions usage attempt a).next <;>
    simp [runFrom, Next.sleeps, Next.ending, hnext]

/-- A run that has asked for another attempt goes on with the rest of the tape. -/
theorem runFrom_append (pre rest : List (Attempt α))
    (hpending : (runFrom policy fractions usage attempt pre).ending = .pending) :
    runFrom policy fractions usage attempt (pre ++ rest) =
      (runFrom policy fractions usage attempt pre).andThen
        (runFrom policy fractions (runFrom policy fractions usage attempt pre).usage
          (attempt + pre.length) rest) := by
  induction pre generalizing usage attempt with
  | nil => simp [runFrom, Run.andThen]
  | cons a pre ih =>
    rw [List.cons_append]
    simp only [runFrom] at hpending ⊢
    cases hnext : (judge policy fractions usage attempt a).next with
    | finish ending =>
      simp only [hnext] at hpending
      rw [hpending] at hnext
      exact absurd ((leaves_iff policy fractions usage attempt a .pending).mpr hnext)
        not_leaves_pending
    | again delay =>
      simp only [hnext] at hpending
      have hshift : attempt + 1 + pre.length = attempt + (a :: pre).length := by
        rw [List.length_cons]
        omega
      simp only [ih _ _ hpending, hshift, Run.andThen, List.cons_append, List.append_assoc]
      congr 1
      omega

/-- A run that has ended does not look at the rest of the tape. -/
theorem runFrom_append_of_ended (pre rest : List (Attempt α))
    (hended : (runFrom policy fractions usage attempt pre).ending ≠ .pending) :
    runFrom policy fractions usage attempt (pre ++ rest) =
      runFrom policy fractions usage attempt pre := by
  induction pre generalizing usage attempt with
  | nil => exact absurd rfl hended
  | cons a pre ih =>
    rw [List.cons_append]
    simp only [runFrom] at hended ⊢
    cases hnext : (judge policy fractions usage attempt a).next with
    | finish ending => rfl
    | again delay =>
      simp only [hnext] at hended
      rw [ih _ _ hended]

end

end Retry

end VersionedStore
