import VersionedStore.Proofs.Retry.Loop
import VersionedStore.Proofs.Retry.Wrapping

/-!
Where the pauses of a run come from. Each of them is what the policy answered to the
error of the attempt before it, and no layer lets a delay out that did not come from
the base. So a pause tells that no layer stopped and none failed.
-/

namespace VersionedStore

variable {α : Type}

/-- A layer does not turn a stop into a delay. -/
theorem Layer.exists_delay_of_pass {l : Layer} {fractions : Fractions}
    {answer : Except Fault Decision × Usage} {longer : Delay}
    (h : (l.pass fractions answer).1 = .ok (.retryAfter longer)) :
    ∃ delay, answer.1 = .ok (.retryAfter delay) := by
  by_contra hnone
  obtain ⟨decision, usage⟩ := answer
  rw [pass_of_no_delay fun delay hdelay => hnone ⟨delay, hdelay⟩] at h
  exact hnone ⟨longer, h⟩

namespace RetryPolicy

variable {p : RetryPolicy} {fractions : Fractions} {base : Base} {layers : List Layer}
  {usage : Usage} {attempt : ℤ} {e : StoreError} {longer : Delay}

/-- A test that fails decides with its fault, whatever was drawn before. -/
theorem decideWithin_cons_of_not_answers {l : Layer} (hfails : ¬l.Answers e) :
    ∃ f, ∀ fractions usage,
      decideWithin fractions base (l :: layers) usage attempt e = (.error f, usage) := by
  cases l with
  | maxAttempts n positive => exact absurd trivial hfails
  | jitter max notNegative => exact absurd trivial hfails
  | skip test =>
    cases htest : test e with
    | ok picked => exact absurd ⟨picked, htest⟩ hfails
    | error f => exact ⟨f, fun fractions usage => by rw [decideWithin, htest]⟩

/-- A delay gets out only through layers that answer and do not stop. -/
theorem forall_of_decideWithin_eq_retryAfter
    (h : (decideWithin fractions base layers usage attempt e).1 = .ok (.retryAfter longer)) :
    ∀ l ∈ layers, l.Answers e ∧ ¬l.Stops attempt e := by
  induction layers generalizing longer with
  | nil => simp
  | cons l layers ih =>
    by_cases hanswers : l.Answers e
    · by_cases hstops : l.Stops attempt e
      · rw [decideWithin_cons_of_stops hstops] at h
        cases h
      · rw [decideWithin_cons_of_not_stops hanswers hstops] at h
        obtain ⟨delay, hdelay⟩ := Layer.exists_delay_of_pass h
        exact List.forall_mem_cons.mpr ⟨⟨hanswers, hstops⟩, ih hdelay⟩
    · obtain ⟨f, hf⟩ := decideWithin_cons_of_not_answers hanswers
      rw [hf] at h
      cases h

/-- A delay of a policy is one of its base, lengthened by all layers of jitter. -/
theorem exists_of_decide_eq_retryAfter (hfractions : fractions.Proper)
    (h : (p.decide fractions usage attempt e).1 = .ok (.retryAfter longer)) :
    ∃ delay, (p.base.decide usage attempt e).1 = .ok (.retryAfter delay) ∧
      longer.seconds = lengthened fractions usage.draws p.layers delay.seconds ∧
      (p.decide fractions usage attempt e).2.draws = usage.draws + draws p.layers := by
  have hlayers := forall_of_decideWithin_eq_retryAfter h
  have hanswers : ∀ l ∈ p.layers, l.Answers e := fun l hl => (hlayers l hl).1
  have hgo : ∀ l ∈ p.layers, ¬l.Stops attempt e := fun l hl => (hlayers l hl).2
  have hdraws := p.base.draws_decide usage attempt e
  rcases hbase : p.base.decide usage attempt e with ⟨f | stop | delay, after⟩
  · rw [decide, decideWithin_of_base hanswers hgo hbase (by simp)] at h
    cases h
  · rw [decide, decideWithin_of_base hanswers hgo hbase (by simp)] at h
    cases h
  · obtain ⟨longer', hseconds, hdecide⟩ :=
      decideWithin_of_base_retryAfter hanswers hgo hfractions hbase
    rw [hbase] at hdraws
    rw [decide, hdecide] at h ⊢
    cases h
    exact ⟨delay, rfl, by rw [hseconds, hdraws], congrArg (· + draws p.layers) hdraws⟩

/-- What a base of the library's own asks for is the delay of its backoff. -/
theorem exists_backoff_of_base (hbase : ∀ answer, base ≠ .custom answer) {delay : Delay}
    (h : (base.decide usage attempt e).1 = .ok (.retryAfter delay)) :
    ∃ b, base = .backoff b ∧ delay.seconds = b.seconds attempt := by
  cases base with
  | never => cases h
  | custom answer => exact absurd rfl (hbase answer)
  | backoff b =>
    refine ⟨b, rfl, ?_⟩
    rw [Base.decide, Delay.ofSeconds_of_notNegative (b.notNegative_seconds attempt)] at h
    split_ifs at h
    · cases h
      rfl
    · cases h

end RetryPolicy

namespace Retry

variable {policy : RetryPolicy} {fractions : Fractions} {usage : Usage} {attempt : ℕ}

/-- An attempt after which the loop goes on has an error, and the policy asks for
another attempt. -/
theorem exists_error_of_again {a : Attempt α} {delay : Delay}
    (h : (judge policy fractions usage attempt a).next = .again delay) :
    ∃ e, error? a = some e ∧ policy.decide fractions usage attempt e =
      (.ok (.retryAfter delay), (judge policy fractions usage attempt a).usage) := by
  match ha : a.outcome with
  | .ok x => simp [judge, ha] at h
  | .error (.fault f) => simp [judge, ha] at h
  | .error (.error e) =>
    refine ⟨e, error?_eq_some.mpr ha, ?_⟩
    rcases hdecide : policy.decide fractions usage attempt e with ⟨f | stop | delay', after⟩ <;>
      simp only [judge, ha, hdecide, reduceCtorEq, Next.again.injEq] at h ⊢
    rw [h]

/-- A pause of a run is what the policy answered to the error of the attempt before
it. Each pause before that one has used up a draw for every layer of jitter. -/
theorem exists_decision_of_sleep (hfractions : fractions.Proper) {tape : List (Attempt α)} {k : ℕ}
    {delay : Delay}
    (hsleep : (runFrom policy fractions usage attempt tape).sleeps[k]? = some delay) :
    ∃ before e, (policy.decide fractions before (attempt + k : ℕ) e).1 = .ok (.retryAfter delay) ∧
      before.draws = usage.draws + k * RetryPolicy.draws policy.layers := by
  induction tape generalizing usage attempt k with
  | nil => simp [runFrom] at hsleep
  | cons a tape ih =>
    simp only [runFrom] at hsleep
    cases hnext : (judge policy fractions usage attempt a).next with
    | finish ending => simp [hnext] at hsleep
    | again first =>
      simp only [hnext] at hsleep
      obtain ⟨e, -, hdecide⟩ := exists_error_of_again hnext
      cases k with
      | zero =>
        obtain rfl : first = delay := by simpa using hsleep
        exact ⟨usage, e, by rw [Nat.add_zero, hdecide], by omega⟩
      | succ k =>
        rw [List.getElem?_cons_succ] at hsleep
        obtain ⟨before, e', hdecide', hdraws'⟩ := ih hsleep
        have hfirst : (policy.decide fractions usage attempt e).1 = .ok (.retryAfter first) := by
          rw [hdecide]
        obtain ⟨-, -, -, hdraws⟩ := RetryPolicy.exists_of_decide_eq_retryAfter hfractions hfirst
        rw [hdecide] at hdraws
        have hshift : attempt + 1 + k = attempt + (k + 1) := by omega
        rw [hshift] at hdecide'
        refine ⟨before, e', hdecide', ?_⟩
        rw [hdraws', hdraws, Nat.succ_mul]
        omega

end Retry

end VersionedStore
