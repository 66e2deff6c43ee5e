import Mathlib.Data.List.Basic
import VersionedStore.Proofs.Retry.Decision

/-!
What a whole policy decides, said of its layers and its base. A layer that
stops does so from any place in the policy, before a draw is made and before
the base is asked. If none stops, the answer is that of the base, and the layers
of jitter lengthen its delay with one draw each. The order of the layers does
not matter therefore, except for that of the layers of jitter among themselves.
-/

namespace VersionedStore

def Layer.isJitter : Layer → Bool
  | .jitter _ _ => true
  | _ => false

theorem Delay.eq_of_seconds {d d' : Delay} (hseconds : d.seconds = d'.seconds) : d = d' := by
  obtain ⟨seconds, notNegative⟩ := d
  obtain ⟨seconds', notNegative'⟩ := d'
  obtain rfl : seconds = seconds' := hseconds
  rfl

namespace Base

variable (base : Base) (usage : Usage) (attempt : ℤ) (e : StoreError)

/-- A base draws no random fractions. -/
theorem draws_decide : (base.decide usage attempt e).2.draws = usage.draws := by
  cases base with
  | never => rfl
  | custom own => rfl
  | backoff b =>
    rw [decide]
    split_ifs <;> rfl

end Base

namespace RetryPolicy

variable {p q : RetryPolicy} {fractions : Fractions} {usage : Usage} {attempt : ℤ} {e : StoreError}

def Halts (p : RetryPolicy) (attempt : ℤ) (e : StoreError) : Prop :=
  ∃ l ∈ p.layers, l.Stops attempt e

/-- Only layers of jitter draw, each of them once. -/
theorem draws_eq_countP (layers : List Layer) : draws layers = layers.countP Layer.isJitter := by
  induction layers with
  | nil => rfl
  | cons l layers ih =>
    rw [List.countP_cons, ← ih]
    cases l <;> rfl

theorem draws_filter (layers : List Layer) :
    draws (layers.filter Layer.isJitter) = draws layers := by
  rw [draws_eq_countP, draws_eq_countP, List.countP_filter]
  simp only [Bool.and_self]

/-- Only the layers of jitter lengthen a delay. -/
theorem lengthened_filter (drawn : ℕ) (layers : List Layer) (seconds : Binary64) :
    lengthened fractions drawn (layers.filter Layer.isJitter) seconds =
      lengthened fractions drawn layers seconds := by
  induction layers with
  | nil => rfl
  | cons l layers ih =>
    cases l with
    | jitter max notNegative =>
      rw [List.filter_cons_of_pos rfl, lengthened, lengthened, ih, draws_filter]
    | maxAttempts n positive => exact ih
    | skip test => exact ih

/-- A policy that halts neither asks its base nor draws. -/
theorem decide_of_halts (htotal : ∀ l ∈ p.layers, l.Total) (hhalts : p.Halts attempt e) :
    p.decide fractions usage attempt e = (.ok .stop, usage) :=
  decideWithin_of_stops (fun l hl => (htotal l hl).answers e) hhalts

inductive Passed (p : RetryPolicy) (fractions : Fractions) :
    Except Fault Decision × Usage → Except Fault Decision × Usage → Prop where
  | failed (f : Fault) (after : Usage) : Passed p fractions (.error f, after) (.error f, after)
  | stopped (after : Usage) : Passed p fractions (.ok .stop, after) (.ok .stop, after)
  | lengthened (delay longer : Delay) (after : Usage)
    (hseconds : longer.seconds = lengthened fractions after.draws p.layers delay.seconds) :
    Passed p fractions (.ok (.retryAfter delay), after)
      (.ok (.retryAfter longer), { after with draws := after.draws + draws p.layers })

/-- A policy that does not halt hands on what its base answers, lengthened. -/
theorem passed_of_not_halts (htotal : ∀ l ∈ p.layers, l.Total) (hfractions : fractions.Proper)
    (hgo : ¬p.Halts attempt e) :
    Passed p fractions (p.base.decide usage attempt e) (p.decide fractions usage attempt e) := by
  have hlayers : ∀ l ∈ p.layers, ¬l.Stops attempt e := fun l hl hstops => hgo ⟨l, hl, hstops⟩
  have hanswers : ∀ l ∈ p.layers, l.Answers e := fun l hl => (htotal l hl).answers e
  rcases hbase : p.base.decide usage attempt e with ⟨f | stop | delay, after⟩
  · rw [decide, decideWithin_of_base hanswers hlayers hbase (by simp)]
    exact .failed f after
  · rw [decide, decideWithin_of_base hanswers hlayers hbase (by simp)]
    exact .stopped after
  · obtain ⟨longer, hseconds, hdecide⟩ :=
      decideWithin_of_base_retryAfter hanswers hlayers hfractions hbase
    rw [decide, hdecide]
    exact .lengthened delay longer after hseconds

namespace Passed

variable {inner answer answer' : Except Fault Decision × Usage}

theorem stop_iff (hp : Passed p fractions inner answer) :
    answer.1 = .ok .stop ↔ inner.1 = .ok .stop := by
  cases hp <;> simp

theorem error_iff (hp : Passed p fractions inner answer) (f : Fault) :
    answer.1 = .error f ↔ inner.1 = .error f := by
  cases hp <;> simp

/-- The base asks for another attempt just if the policy does, and jitter is all that is
added. -/
theorem retryAfter_iff (hp : Passed p fractions inner answer) (longer : Delay) :
    answer.1 = .ok (.retryAfter longer) ↔ ∃ delay, inner.1 = .ok (.retryAfter delay) ∧
      longer.seconds = RetryPolicy.lengthened fractions inner.2.draws p.layers delay.seconds := by
  cases hp with
  | failed f after => simp
  | stopped after => simp
  | lengthened delay longer' after hseconds =>
    constructor
    · intro hlonger
      obtain rfl : longer' = longer := by simpa using hlonger
      exact ⟨delay, rfl, hseconds⟩
    · intro h
      obtain ⟨delay', hdelay, hlonger⟩ := h
      obtain rfl : delay = delay' := by simpa using hdelay
      rw [Delay.eq_of_seconds (hlonger.trans hseconds.symm)]

theorem draws_of_retryAfter (hp : Passed p fractions inner answer) {longer : Delay}
    (hlonger : answer.1 = .ok (.retryAfter longer)) :
    answer.2.draws = inner.2.draws + draws p.layers := by
  cases hp with
  | failed f after => cases hlonger
  | stopped after => cases hlonger
  | lengthened delay longer' after hseconds => rfl

/-- Without a delay, nothing is drawn. -/
theorem draws_of_no_delay (hp : Passed p fractions inner answer)
    (hanswer : ∀ longer, answer.1 ≠ .ok (.retryAfter longer)) :
    answer.2.draws = inner.2.draws := by
  cases hp with
  | failed f after => rfl
  | stopped after => rfl
  | lengthened delay longer after hseconds => exact absurd rfl (hanswer longer)

/-- Layers do not consult a base more than once. -/
theorem consultations (hp : Passed p fractions inner answer) :
    answer.2.consultations = inner.2.consultations := by
  cases hp <;> rfl

/-- The layers of jitter decide what becomes of the answer of the base. -/
theorem unique (hp : Passed p fractions inner answer) (hq : Passed q fractions inner answer')
    (hjitter : p.layers.filter Layer.isJitter = q.layers.filter Layer.isJitter) :
    answer = answer' := by
  have hdraws : draws p.layers = draws q.layers := by
    rw [← draws_filter p.layers, hjitter, draws_filter]
  cases hp with
  | failed f after =>
    cases hq
    rfl
  | stopped after =>
    cases hq
    rfl
  | lengthened delay longer after hseconds =>
    cases hq with
    | lengthened delay longer' after hseconds' =>
      rw [← lengthened_filter, hjitter, lengthened_filter, ← hseconds'] at hseconds
      rw [Delay.eq_of_seconds hseconds, hdraws]

end Passed

/-- It does not matter in which order the layers are put around a base. -/
theorem halts_congr (hperm : p.layers.Perm q.layers) : p.Halts attempt e ↔ q.Halts attempt e := by
  simp only [Halts, hperm.mem_iff]

/-- The order of the layers matters for the layers of jitter only. -/
theorem decide_congr (htotal : ∀ l ∈ p.layers, l.Total) (hfractions : fractions.Proper)
    (hbase : p.base = q.base) (hperm : p.layers.Perm q.layers)
    (hjitter : p.layers.filter Layer.isJitter = q.layers.filter Layer.isJitter) :
    p.decide fractions usage attempt e = q.decide fractions usage attempt e := by
  have htotal' : ∀ l ∈ q.layers, l.Total := fun l hl => htotal l (hperm.mem_iff.mpr hl)
  by_cases hhalts : p.Halts attempt e
  · rw [decide_of_halts htotal hhalts, decide_of_halts htotal' ((halts_congr hperm).mp hhalts)]
  · have hgo : ¬q.Halts attempt e := fun h => hhalts ((halts_congr hperm).mpr h)
    have hp : Passed p fractions (p.base.decide usage attempt e)
        (p.decide fractions usage attempt e) := passed_of_not_halts htotal hfractions hhalts
    have hq : Passed q fractions (q.base.decide usage attempt e)
        (q.decide fractions usage attempt e) := passed_of_not_halts htotal' hfractions hgo
    rw [hbase] at hp
    exact hp.unique hq hjitter

structure Uses (p : RetryPolicy) (usage : Usage) (attempt : ℤ) (e : StoreError)
    (answer : Except Fault Decision × Usage) : Prop where
  draws : ∀ longer, answer.1 = .ok (.retryAfter longer) →
    answer.2.draws = usage.draws + p.layers.countP Layer.isJitter
  noDraws : (∀ longer, answer.1 ≠ .ok (.retryAfter longer)) → answer.2.draws = usage.draws
  notAsked : p.Halts attempt e → answer.2 = usage
  asked : ¬p.Halts attempt e → ∀ own, p.base = .custom own →
    answer.2.consultations = usage.consultations + 1

/-- A policy that halts uses up nothing. -/
theorem uses_of_halts (htotal : ∀ l ∈ p.layers, l.Total) (hhalts : p.Halts attempt e) :
    p.Uses usage attempt e (p.decide fractions usage attempt e) := by
  rw [decide_of_halts htotal hhalts]
  exact ⟨by simp, fun _ => rfl, fun _ => rfl, fun hgo => absurd hhalts hgo⟩

theorem uses_of_not_halts (htotal : ∀ l ∈ p.layers, l.Total) (hfractions : fractions.Proper)
    (hgo : ¬p.Halts attempt e) :
    p.Uses usage attempt e (p.decide fractions usage attempt e) := by
  have hpassed : Passed p fractions (p.base.decide usage attempt e)
      (p.decide fractions usage attempt e) := passed_of_not_halts htotal hfractions hgo
  have hdraws := p.base.draws_decide usage attempt e
  refine ⟨fun longer hlonger => ?_, fun hanswer => ?_, fun hhalts => absurd hhalts hgo,
    fun _ own hown => ?_⟩
  · rw [hpassed.draws_of_retryAfter hlonger, hdraws, draws_eq_countP]
  · rw [hpassed.draws_of_no_delay hanswer, hdraws]
  · rw [hpassed.consultations, hown]
    rfl

/-- The answer of a policy, its use of draws and of the base, and their
independence of the order of the layers. -/
theorem decide_by_layers_and_base (p : RetryPolicy) (htotal : ∀ l ∈ p.layers, l.Total)
    {fractions : Fractions} (hfractions : fractions.Proper) (usage : Usage) (attempt : ℤ)
    (e : StoreError) :
    let inner := p.base.decide usage attempt e
    let answer := p.decide fractions usage attempt e
    (answer.1 = .ok .stop ↔ p.Halts attempt e ∨ inner.1 = .ok .stop) ∧
    (∀ f, answer.1 = .error f ↔ ¬p.Halts attempt e ∧ inner.1 = .error f) ∧
    (∀ longer, answer.1 = .ok (.retryAfter longer) ↔ ¬p.Halts attempt e ∧
      ∃ delay, inner.1 = .ok (.retryAfter delay) ∧
        longer.seconds = lengthened fractions usage.draws p.layers delay.seconds) ∧
    p.Uses usage attempt e answer ∧
    ∀ layers, p.layers.Perm layers →
      p.layers.filter Layer.isJitter = layers.filter Layer.isJitter →
      decide ⟨p.base, layers⟩ fractions usage attempt e = answer := by
  intro inner answer
  have hcongr : ∀ layers, p.layers.Perm layers →
      p.layers.filter Layer.isJitter = layers.filter Layer.isJitter →
      decide ⟨p.base, layers⟩ fractions usage attempt e = answer := fun layers hperm hjitter =>
    (decide_congr (q := ⟨p.base, layers⟩) htotal hfractions rfl hperm hjitter).symm
  by_cases hhalts : p.Halts attempt e
  · have hanswer : answer.1 = .ok .stop := by
      rw [show answer = (.ok .stop, usage) from decide_of_halts htotal hhalts]
    exact ⟨by simp [hanswer, hhalts], by simp [hanswer, hhalts], by simp [hanswer, hhalts],
      uses_of_halts htotal hhalts, hcongr⟩
  · have hpassed : Passed p fractions inner answer := passed_of_not_halts htotal hfractions hhalts
    have hdraws : inner.2.draws = usage.draws := p.base.draws_decide usage attempt e
    refine ⟨?_, fun f => ?_, fun longer => ?_, uses_of_not_halts htotal hfractions hhalts, hcongr⟩
    · rw [hpassed.stop_iff, or_iff_right hhalts]
    · rw [hpassed.error_iff, and_iff_right hhalts]
    · rw [hpassed.retryAfter_iff, and_iff_right hhalts, hdraws]

def pause (seconds : ℕ) : Delay :=
  ⟨.ofInt seconds, Binary64.notNegative_ofInt (Int.natCast_nonneg seconds)⟩

/-- A caller's own base that asks for a pause of one second again and again,
inside two layers of jitter and two layers that may stop. -/
def jitteredTwice : RetryPolicy where
  base := .custom fun _ _ _ => .ok (.retryAfter (pause 1))
  layers := [.jitter (.ofInt 2) (by decide +kernel), .skip fun e => .ok (e.kind == .client),
    .jitter (.ofInt 4) (by decide +kernel), .maxAttempts 5 (by decide)]

theorem lengthened_jitteredTwice : (pause 7).seconds =
    lengthened (fun _ => .ofInt 1) Usage.none.draws jitteredTwice.layers (pause 1).seconds := by
  decide +kernel

theorem decide_jitteredTwice :
    let fractions : Fractions := fun _ => .ofInt 1
    let down : StoreError := ⟨"down", none, .transport none⟩
    let reordered : List Layer := [.maxAttempts 5 (by decide),
      .jitter (.ofInt 2) (by decide +kernel), .skip fun e => .ok (e.kind == .client),
      .jitter (.ofInt 4) (by decide +kernel)]
    (jitteredTwice.decide fractions .none 3 down).1 = .ok (.retryAfter (pause 7)) ∧
    (jitteredTwice.decide fractions .none 3 down).2.draws = 2 ∧
    (jitteredTwice.decide fractions .none 3 down).2.consultations = 1 ∧
    decide ⟨jitteredTwice.base, reordered⟩ fractions .none 3 down =
      jitteredTwice.decide fractions .none 3 down ∧
    (jitteredTwice.decide fractions .none 5 down).1 = .ok .stop := by
  intro fractions down reordered
  have htotal : ∀ l ∈ jitteredTwice.layers, l.Total := by
    simp only [jitteredTwice, List.forall_mem_cons]
    exact ⟨trivial, fun e => ⟨_, rfl⟩, trivial, trivial, by simp⟩
  have hfraction : Binary64.zero.le (.ofInt 1) = true ∧
      (Binary64.ofInt 1).le (.ofInt 1) = true := by
    decide +kernel
  have hproper : fractions.Proper := fun _ => hfraction
  have hgo : ¬jitteredTwice.Halts 3 down := by
    simp [Halts, jitteredTwice, Layer.Stops, down, StoreError.kind, Failure.kind]
  have hhalts : jitteredTwice.Halts 5 down :=
    ⟨.maxAttempts 5 (by decide), .tail _ (.tail _ (.tail _ (.head _))), Int.le_refl 5⟩
  have hfifth := decide_by_layers_and_base jitteredTwice htotal hproper .none 5 down
  obtain ⟨-, -, hretry, huses, horder⟩ :=
    decide_by_layers_and_base jitteredTwice htotal hproper .none 3 down
  have hpause := (hretry (pause 7)).mpr ⟨hgo, pause 1, rfl, lengthened_jitteredTwice⟩
  have hdraws : Usage.none.draws + jitteredTwice.layers.countP Layer.isJitter = 2 := rfl
  have hasked : Usage.none.consultations + 1 = 1 := rfl
  exact ⟨hpause, (huses.draws _ hpause).trans hdraws, (huses.asked hgo _ rfl).trans hasked,
    horder reordered (List.perm_append_singleton _ [_, _, _]) rfl, hfifth.1.mpr (.inl hhalts)⟩

end RetryPolicy

end VersionedStore
