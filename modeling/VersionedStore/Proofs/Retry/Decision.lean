import VersionedStore.Proofs.Retry.Delay
import VersionedStore.Config.Basic

/-!
What a base inside layers decides. Any layer that stops decides alone, wherever
it stands, and the base is not even asked. Otherwise the base decides, and the
layers of jitter only lengthen the delay that it asks for.
-/

namespace VersionedStore

def Fractions.Proper (fractions : Fractions) : Prop :=
  ∀ k, Binary64.zero.le (fractions k) = true ∧ (fractions k).le (.ofInt 1) = true

namespace Fractions

theorem proper_zero : Proper fun _ => .zero := by
  have hzero : Binary64.zero.le .zero = true ∧ Binary64.zero.le (.ofInt 1) = true := by
    decide +kernel
  exact fun _ => hzero

theorem proper_one : Proper fun _ => .ofInt 1 := by
  have hone : Binary64.zero.le (.ofInt 1) = true ∧ (Binary64.ofInt 1).le (.ofInt 1) = true := by
    decide +kernel
  exact fun _ => hone

end Fractions

namespace Layer

def Stops (attempt : ℤ) (e : StoreError) : Layer → Prop
  | .maxAttempts n _ => n ≤ attempt
  | .jitter _ _ => False
  | .skip test => test e = .ok true

def Total : Layer → Prop
  | .skip test => ∀ e, ∃ picked, test e = .ok picked
  | _ => True

def Answers (e : StoreError) : Layer → Prop
  | .skip test => ∃ picked, test e = .ok picked
  | _ => True

theorem Total.answers {l : Layer} (htotal : l.Total) (e : StoreError) : l.Answers e := by
  cases l with
  | skip test => exact htotal e
  | _ => trivial

/-- What a layer that does not stop makes of an answer from inside it. -/
def pass (fractions : Fractions) (l : Layer) (answer : Except Fault Decision × Usage) :
    Except Fault Decision × Usage :=
  match l, answer with
  | .jitter max _, (.ok (.retryAfter delay), usage) =>
    ((Delay.ofSeconds (delay.seconds + share max (fractions usage.draws))).map .retryAfter,
      { usage with draws := usage.draws + 1 })
  | _, other => other

/-- Layers change nothing but delays. -/
theorem pass_of_no_delay {l : Layer} {fractions : Fractions} {answer : Except Fault Decision}
    {usage : Usage} (hanswer : ∀ delay, answer ≠ .ok (.retryAfter delay)) :
    l.pass fractions (answer, usage) = (answer, usage) := by
  unfold pass
  split
  · rename_i heq
    obtain ⟨rfl, -⟩ := Prod.mk.inj heq
    exact absurd rfl (hanswer _)
  · rfl

end Layer

namespace RetryPolicy

variable {fractions : Fractions} {base : Base} {layers : List Layer} {usage : Usage}
  {attempt : ℤ} {e : StoreError}

def draws : List Layer → ℕ
  | [] => 0
  | .jitter _ _ :: layers => draws layers + 1
  | _ :: layers => draws layers

/-- A delay with a share of every jitter added to it, the innermost first. The
draws are counted on from a number of draws before. -/
def lengthened (fractions : Fractions) (drawn : ℕ) : List Layer → Binary64 → Binary64
  | [], seconds => seconds
  | .jitter max _ :: layers, seconds =>
    lengthened fractions drawn layers seconds + share max (fractions (drawn + draws layers))
  | _ :: layers, seconds => lengthened fractions drawn layers seconds

/-- A layer that stops does so before anything inside it is asked or drawn. -/
theorem decideWithin_cons_of_stops {l : Layer} (hstops : l.Stops attempt e) :
    decideWithin fractions base (l :: layers) usage attempt e = (.ok .stop, usage) := by
  cases l with
  | maxAttempts n positive => exact if_pos hstops
  | jitter max notNegative => exact hstops.elim
  | skip test =>
    have htest : test e = .ok true := hstops
    rw [decideWithin, htest]

theorem decideWithin_cons_of_not_stops {l : Layer} (hanswers : l.Answers e)
    (hgo : ¬l.Stops attempt e) :
    decideWithin fractions base (l :: layers) usage attempt e =
      l.pass fractions (decideWithin fractions base layers usage attempt e) := by
  cases l with
  | maxAttempts n positive => exact if_neg hgo
  | jitter max notNegative =>
    rw [decideWithin]
    rcases decideWithin fractions base layers usage attempt e with ⟨f | stop | delay, after⟩ <;> rfl
  | skip test =>
    obtain ⟨picked, hpicked⟩ := hanswers
    cases picked with
    | true => exact absurd hpicked hgo
    | false =>
      rw [decideWithin, hpicked]
      rfl

/-- A layer that stops decides, whatever lies outside and inside it. -/
theorem decideWithin_of_stops (hanswers : ∀ l ∈ layers, l.Answers e)
    (hstops : ∃ l ∈ layers, l.Stops attempt e) :
    decideWithin fractions base layers usage attempt e = (.ok .stop, usage) := by
  induction layers with
  | nil => simp at hstops
  | cons l layers ih =>
    obtain ⟨hl, hlayers⟩ := List.forall_mem_cons.mp hanswers
    by_cases hgo : l.Stops attempt e
    · exact decideWithin_cons_of_stops hgo
    · -- a layer outside the one that stops passes the answer on
      have hinner : ∃ l ∈ layers, l.Stops attempt e := by simpa [hgo] using hstops
      rw [decideWithin_cons_of_not_stops hl hgo, ih hlayers hinner]
      exact Layer.pass_of_no_delay (by simp)

/-- An answer of the base that asks for no delay passes through all layers. -/
theorem decideWithin_of_base {answer : Except Fault Decision} {after : Usage}
    (hanswers : ∀ l ∈ layers, l.Answers e) (hgo : ∀ l ∈ layers, ¬l.Stops attempt e)
    (hbase : base.decide usage attempt e = (answer, after))
    (hanswer : ∀ delay, answer ≠ .ok (.retryAfter delay)) :
    decideWithin fractions base layers usage attempt e = (answer, after) := by
  induction layers with
  | nil => exact hbase
  | cons l layers ih =>
    obtain ⟨hl, hlayers⟩ := List.forall_mem_cons.mp hanswers
    obtain ⟨hgol, hgos⟩ := List.forall_mem_cons.mp hgo
    rw [decideWithin_cons_of_not_stops hl hgol, ih hlayers hgos, Layer.pass_of_no_delay hanswer]

/-- A delay that the base asks for is lengthened by every layer of jitter. -/
theorem decideWithin_of_base_retryAfter {delay : Delay} {after : Usage}
    (hanswers : ∀ l ∈ layers, l.Answers e) (hgo : ∀ l ∈ layers, ¬l.Stops attempt e)
    (hfractions : fractions.Proper)
    (hbase : base.decide usage attempt e = (.ok (.retryAfter delay), after)) :
    ∃ longer : Delay,
      longer.seconds = lengthened fractions after.draws layers delay.seconds ∧
        decideWithin fractions base layers usage attempt e =
          (.ok (.retryAfter longer), { after with draws := after.draws + draws layers }) := by
  induction layers with
  | nil => exact ⟨delay, rfl, hbase⟩
  | cons l layers ih =>
    obtain ⟨hl, hlayers⟩ := List.forall_mem_cons.mp hanswers
    obtain ⟨hgol, hgos⟩ := List.forall_mem_cons.mp hgo
    obtain ⟨longer, hseconds, hinner⟩ := ih hlayers hgos
    rw [decideWithin_cons_of_not_stops hl hgol, hinner]
    cases l with
    | maxAttempts n positive => exact ⟨longer, hseconds, rfl⟩
    | skip test => exact ⟨longer, hseconds, rfl⟩
    | jitter max notNegative =>
      have hfraction := notNegative_of_zero_le (hfractions (after.draws + draws layers)).1
      have hsum := Binary64.notNegative_add longer.notNegative
        (notNegative_share notNegative hfraction)
      refine ⟨⟨_, hsum⟩, by rw [lengthened, ← hseconds], ?_⟩
      rw [Layer.pass, Delay.ofSeconds_of_notNegative hsum]
      rfl

end RetryPolicy

namespace Base

variable {base : Base} (usage : Usage) (attempt : ℤ) {e : StoreError}

def Stops (base : Base) (e : StoreError) : Prop := base = .never ∨ e.retryable = false

theorem decide_of_stops (hbase : ∀ answer, base ≠ .custom answer) (hstops : base.Stops e) :
    base.decide usage attempt e = (.ok .stop, usage) := by
  cases base with
  | never => rfl
  | custom answer => exact absurd rfl (hbase answer)
  | backoff b =>
    have hretryable : e.retryable = false := hstops.resolve_left nofun
    rw [decide, hretryable]
    rfl

theorem decide_of_not_stops (hbase : ∀ answer, base ≠ .custom answer) (hgo : ¬base.Stops e) :
    ∃ delay, base.decide usage attempt e = (.ok (.retryAfter delay), usage) := by
  cases base with
  | never => exact absurd (.inl rfl) hgo
  | custom answer => exact absurd rfl (hbase answer)
  | backoff b =>
    have hretryable : e.retryable = true := by simpa [Stops] using hgo
    have hdelay := Delay.ofSeconds_of_notNegative (b.notNegative_seconds attempt)
    exact ⟨_, by rw [decide, if_pos hretryable, hdelay]; rfl⟩

end Base

namespace RetryPolicy

variable {p : RetryPolicy} {fractions : Fractions} {usage : Usage} {attempt : ℤ} {e : StoreError}

/-- A base of the library's own in layers whose tests give an answer. -/
structure Reference (p : RetryPolicy) : Prop where
  base : ∀ answer, p.base ≠ .custom answer
  total : ∀ l ∈ p.layers, l.Total

def Stops (p : RetryPolicy) (attempt : ℤ) (e : StoreError) : Prop :=
  (∃ l ∈ p.layers, l.Stops attempt e) ∨ p.base.Stops e

/-- A policy of the library's own stops where it is said to, and uses up nothing. -/
theorem Reference.decide_of_stops (hp : p.Reference) (hstops : p.Stops attempt e) :
    p.decide fractions usage attempt e = (.ok .stop, usage) := by
  have hanswers : ∀ l ∈ p.layers, l.Answers e := fun l hl => (hp.total l hl).answers e
  by_cases hlayers : ∃ l ∈ p.layers, l.Stops attempt e
  · exact decideWithin_of_stops hanswers hlayers
  · have hgo : ∀ l ∈ p.layers, ¬l.Stops attempt e := by simpa using hlayers
    have hbase := Base.decide_of_stops usage attempt hp.base (hstops.resolve_left hlayers)
    exact decideWithin_of_base hanswers hgo hbase (by simp)

/-- Anywhere else it asks for another attempt; it never fails. -/
theorem Reference.decide_of_not_stops (hp : p.Reference) (hfractions : fractions.Proper)
    (hgo : ¬p.Stops attempt e) :
    ∃ delay, (p.decide fractions usage attempt e).1 = .ok (.retryAfter delay) := by
  obtain ⟨hlayers, hbase⟩ := not_or.mp hgo
  obtain ⟨delay, hdelay⟩ := Base.decide_of_not_stops usage attempt hp.base hbase
  obtain ⟨longer, -, hlonger⟩ :=
    decideWithin_of_base_retryAfter (fun l hl => (hp.total l hl).answers e)
      (by simpa using hlayers) hfractions hdelay
  exact ⟨longer, by rw [decide, hlonger]⟩

end RetryPolicy

end VersionedStore
