import VersionedStore.Proofs.Retry.Pause

/-!
What a run does not owe to its draws. A draw only lengthens a pause: whether there
is a pause at all, which attempts are made and how the run ends depend on the
policy and on the outcomes alone. So runs of one policy over the same outcomes are
alike, whatever was drawn before and between their attempts.
-/

namespace VersionedStore

variable {α : Type}

namespace RetryPolicy

variable {p : RetryPolicy} {fractions fractions' : Fractions} {base : Base} {layers : List Layer}
  {usage usage' : Usage} {attempt : ℤ} {e : StoreError}

/-- Whether an answer asks for another attempt, the pause before it aside. -/
def verdict (answer : Except Fault Decision) : Except Fault Bool :=
  answer.map fun
    | .stop => false
    | .retryAfter _ => true

theorem verdict_eq_ok_true_iff {answer : Except Fault Decision} :
    verdict answer = .ok true ↔ ∃ delay, answer = .ok (.retryAfter delay) := by
  rcases answer with f | stop | delay <;> simp [verdict, Except.map]

/-- A layer of jitter makes a delay of a delay. -/
theorem verdict_pass (hfractions : fractions.Proper) (l : Layer)
    (answer : Except Fault Decision × Usage) :
    verdict (l.pass fractions answer).1 = verdict answer.1 := by
  obtain ⟨answer, usage⟩ := answer
  by_cases hdelay : ∃ delay, answer = .ok (.retryAfter delay)
  · obtain ⟨delay, rfl⟩ := hdelay
    cases l with
    | jitter max notNegative =>
      have hfraction := notNegative_of_zero_le (hfractions usage.draws).1
      have hsum := Binary64.notNegative_add delay.notNegative
        (notNegative_share notNegative hfraction)
      rw [Layer.pass, Delay.ofSeconds_of_notNegative hsum]
      rfl
    | _ => rfl
  · rw [Layer.pass_of_no_delay fun delay h => hdelay ⟨delay, h⟩]

/-- A base of the library's own decides alike whatever has been used up. -/
theorem verdict_base (hbase : ∀ answer, base ≠ .custom answer) :
    verdict (base.decide usage attempt e).1 = verdict (base.decide usage' attempt e).1 := by
  by_cases hstops : base.Stops e
  · rw [Base.decide_of_stops usage attempt hbase hstops,
      Base.decide_of_stops usage' attempt hbase hstops]
  · obtain ⟨delay, hdelay⟩ := Base.decide_of_not_stops usage attempt hbase hstops
    obtain ⟨delay', hdelay'⟩ := Base.decide_of_not_stops usage' attempt hbase hstops
    rw [hdelay, hdelay']
    rfl

/-- Whether there will be another attempt does not depend on draws. The induction
is on the layers. -/
theorem verdict_decideWithin (hbase : ∀ answer, base ≠ .custom answer)
    (hfractions : fractions.Proper) (hfractions' : fractions'.Proper) :
    verdict (decideWithin fractions base layers usage attempt e).1 =
      verdict (decideWithin fractions' base layers usage' attempt e).1 := by
  induction layers with
  | nil => exact verdict_base hbase
  | cons l layers ih =>
    by_cases hanswers : l.Answers e
    · by_cases hstops : l.Stops attempt e
      · rw [decideWithin_cons_of_stops hstops, decideWithin_cons_of_stops hstops]
      · rw [decideWithin_cons_of_not_stops hanswers hstops,
          decideWithin_cons_of_not_stops hanswers hstops, verdict_pass hfractions,
          verdict_pass hfractions', ih]
    · obtain ⟨f, hf⟩ := decideWithin_cons_of_not_answers hanswers
      rw [hf, hf]

/-- A policy that asks for no other attempt draws nothing. -/
theorem draws_of_verdict_ne (hfractions : fractions.Proper)
    (h : verdict (decideWithin fractions base layers usage attempt e).1 ≠ .ok true) :
    (decideWithin fractions base layers usage attempt e).2.draws = usage.draws := by
  induction layers with
  | nil => exact base.draws_decide usage attempt e
  | cons l layers ih =>
    by_cases hanswers : l.Answers e
    · by_cases hstops : l.Stops attempt e
      · rw [decideWithin_cons_of_stops hstops]
      · rw [decideWithin_cons_of_not_stops hanswers hstops] at h ⊢
        rw [verdict_pass hfractions] at h
        have hnone : ∀ delay, (decideWithin fractions base layers usage attempt e).1 ≠
            .ok (.retryAfter delay) := fun delay hdelay =>
          h (verdict_eq_ok_true_iff.mpr ⟨delay, hdelay⟩)
        rw [Layer.pass_of_no_delay hnone]
        exact ih h
    · obtain ⟨f, hf⟩ := decideWithin_cons_of_not_answers hanswers
      rw [hf]

end RetryPolicy

structure Run.Alike (r r' : Run α) : Prop where
  attempts : r.attempts = r'.attempts
  consulted : r.consulted = r'.consulted
  pauses : r.sleeps.length = r'.sleeps.length
  ending : r.ending = r'.ending

namespace Run.Alike

variable {r r' s s' : Run α}

theorem andThen (hr : r.Alike r') (hs : s.Alike s') : (r.andThen s).Alike (r'.andThen s') where
  attempts := congrArg₂ (· + ·) hr.attempts hs.attempts
  consulted := congrArg₂ (· ++ ·) hr.consulted hs.consulted
  pauses := by
    simp only [Run.andThen, List.length_append, hr.pauses, hs.pauses]
  ending := hs.ending

end Run.Alike

namespace Retry

variable {policy : RetryPolicy} {fractions fractions' : Fractions} {usage usage' : Usage}
  {attempt : ℕ}

/-- What comes after an attempt is the same whatever is drawn, the pause aside. -/
theorem judge_next_alike (hbase : ∀ answer, policy.base ≠ .custom answer)
    (hfractions : fractions.Proper) (hfractions' : fractions'.Proper) (a : Attempt α) :
    let next := (judge policy fractions usage attempt a).next
    let next' := (judge policy fractions' usage' attempt a).next
    next.ending = next'.ending ∧ next.sleeps.length = next'.sleeps.length := by
  match ha : a.outcome with
  | .ok x => simp [judge, ha]
  | .error (.fault f) => simp [judge, ha]
  | .error (.error e) =>
    have hverdict : RetryPolicy.verdict (policy.decide fractions usage attempt e).1 =
        RetryPolicy.verdict (policy.decide fractions' usage' attempt e).1 :=
      RetryPolicy.verdict_decideWithin hbase hfractions hfractions'
    rcases hdecide : policy.decide fractions usage attempt e with ⟨f | stop | delay, after⟩ <;>
      rcases hdecide' : policy.decide fractions' usage' attempt e with
        ⟨f' | stop' | delay', after'⟩ <;>
      simp_all [judge, RetryPolicy.verdict, Except.map, Next.ending, Next.sleeps]

/-- One attempt goes alike under other draws, but for the length of its pause. -/
theorem runFrom_singleton_alike (hbase : ∀ answer, policy.base ≠ .custom answer)
    (hfractions : fractions.Proper) (hfractions' : fractions'.Proper) (a : Attempt α) :
    (runFrom policy fractions usage attempt [a]).Alike
      (runFrom policy fractions' usage' attempt [a]) := by
  have hnext : (judge policy fractions usage attempt a).next.ending =
        (judge policy fractions' usage' attempt a).next.ending ∧
      (judge policy fractions usage attempt a).next.sleeps.length =
        (judge policy fractions' usage' attempt a).next.sleeps.length :=
    judge_next_alike hbase hfractions hfractions' a
  obtain ⟨hasked, -⟩ := judge_eq policy fractions usage attempt a
  obtain ⟨hasked', -⟩ := judge_eq policy fractions' usage' attempt a
  rw [runFrom_singleton, runFrom_singleton]
  exact ⟨rfl, by simp only [hasked, hasked'], hnext.2, hnext.1⟩

/-- An attempt uses up a draw for every layer of jitter if there is a pause after it,
and none otherwise. -/
theorem draws_runFrom_singleton (hfractions : fractions.Proper) (a : Attempt α) :
    (runFrom policy fractions usage attempt [a]).usage.draws = usage.draws +
      RetryPolicy.draws policy.layers *
        (runFrom policy fractions usage attempt [a]).sleeps.length := by
  rw [runFrom_singleton]
  match ha : a.outcome with
  | .ok x => simp [judge, ha, Next.sleeps]
  | .error (.fault f) => simp [judge, ha, Next.sleeps]
  | .error (.error e) =>
    by_cases hverdict : RetryPolicy.verdict (policy.decide fractions usage attempt e).1 = .ok true
    · obtain ⟨delay, hdelay⟩ := RetryPolicy.verdict_eq_ok_true_iff.mp hverdict
      obtain ⟨-, -, -, hdraws⟩ := RetryPolicy.exists_of_decide_eq_retryAfter hfractions hdelay
      rcases hdecide : policy.decide fractions usage attempt e with ⟨decision, after⟩
      rw [hdecide] at hdelay hdraws
      obtain rfl : decision = .ok (.retryAfter delay) := hdelay
      simpa [judge, ha, hdecide, Next.sleeps] using hdraws
    · have hdraws := RetryPolicy.draws_of_verdict_ne hfractions hverdict
      change (policy.decide fractions usage attempt e).2.draws = usage.draws at hdraws
      rcases hdecide : policy.decide fractions usage attempt e with ⟨f | stop | delay, after⟩
      · simpa [judge, ha, hdecide, Next.sleeps] using hdraws
      · simpa [judge, ha, hdecide, Next.sleeps] using hdraws
      · exact absurd (by rw [hdecide]; rfl) hverdict

/-- The policy is asked about the first attempts of a run, in order. -/
theorem consulted_numbers (tape : List (Attempt α)) :
    let consulted := (runFrom policy fractions usage attempt tape).consulted
    consulted.map Prod.fst = List.range' attempt consulted.length := by
  induction tape generalizing usage attempt with
  | nil => rfl
  | cons a tape ih =>
    simp only [runFrom]
    cases hnext : (judge policy fractions usage attempt a).next with
    | finish ending => cases (judge policy fractions usage attempt a).asked <;> rfl
    | again delay =>
      obtain ⟨e, herror, -⟩ := exists_error_of_again hnext
      obtain ⟨hasked, -⟩ := judge_eq policy fractions usage attempt a
      have hrest := @ih (judge policy fractions usage attempt a).usage (attempt + 1)
      simp only [hasked, herror, Option.toList_some, List.map_cons, List.map_nil,
        List.cons_append, List.nil_append, List.length_cons, List.range'_succ]
      rw [hrest]

namespace Setting

variable {s : Setting α} {n : ℕ}

/-- A run that goes on goes on with the next outcome. -/
theorem run_succ_eq (hpending : (s.run n).ending = .pending) :
    s.run (n + 1) = (s.run n).andThen
      (runFrom s.policy s.fractions (s.run n).usage (n + 1) [s.outcomes n]) := by
  have happend := runFrom_append s.policy s.fractions s.usage 1 (s.tape n) [s.outcomes n] hpending
  rw [length_tape, Nat.add_comm 1 n, ← tape_succ] at happend
  exact happend

/-- A run that has ended stays as it is. -/
theorem run_eq_of_ended (hended : (s.run n).ending ≠ .pending) {m : ℕ} (hm : n ≤ m) :
    s.run m = s.run n := by
  obtain ⟨k, rfl⟩ := Nat.exists_eq_add_of_le hm
  rw [run, tape_add]
  exact runFrom_append_of_ended _ _ _ _ _ _ hended

/-- A run that is pending has made all the attempts that it could make. -/
theorem attempts_of_pending (hpending : (s.run n).ending = .pending) : (s.run n).attempts = n := by
  have hstay : ∀ k < n, ∀ ending, ¬s.Leaves k ending := by
    intro k hk ending hleaves
    exact (ended_iff n).mpr ⟨k, hk, ending, hleaves⟩ hpending
  exact (traces_of_forall_not_leaves hstay).1.attempts

theorem attempts_succ_of_pending (hpending : (s.run n).ending = .pending) :
    (s.run (n + 1)).attempts = n + 1 := by
  rw [run_succ_eq hpending, Run.andThen, attempts_of_pending hpending, runFrom_singleton]

end Setting

end Retry

end VersionedStore
