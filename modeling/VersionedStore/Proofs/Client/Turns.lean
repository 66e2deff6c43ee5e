import Mathlib.Algebra.BigOperators.Fin
import VersionedStore.Proofs.Retry.Alike
import VersionedStore.Client.Basic

/-!
Writes that are made at once on one client. They take turns: a turn leads from one
point where a write waits to the next one, which is the sending of a request or the
pause before another. The policy and the stream of draws are shared, and so the
draws of a write depend on the others; but each of them keeps its own account, and
together they have drawn what their pauses needed.
-/

namespace VersionedStore.Client

open Retry

structure Writes (ι : Type) where
  client : Client
  transport : Transport
  fractions : Fractions
  request : ι → Operation.putObject.Request
  reactions : ι → ℕ → Reaction

/-- A write on its way: what it has left so far and, while it waits for an answer,
what it will make of it. -/
structure Task where
  run : Run Operation.putObject.Reply
  receive? : Option (Reaction → Attempt Response)

/-- Where writes stand: what their policy has used up, the requests that were sent,
each with its write and with the number of the attempt, and the writes themselves. -/
structure Standing (ι : Type) where
  usage : Usage
  wire : List (ι × ℕ × Sending)
  task : ι → Task

variable {ι : Type}

namespace Standing

variable [DecidableEq ι]

def sends (s : Standing ι) (i : ι) : List (ℕ × Sending) :=
  (s.wire.filter fun entry => entry.1 = i).map Prod.snd

end Standing

namespace Writes

variable (w : Writes ι)

def start (usage : Usage) : Standing ι :=
  ⟨usage, [], fun _ => ⟨Retry.run w.client.policy w.fractions usage [], none⟩⟩

variable [DecidableEq ι]

def settle (s : Standing ι) (i : ι) (a : Attempt Operation.putObject.Reply) : Standing ι :=
  let t := s.task i
  let r := runFrom w.client.policy w.fractions s.usage (t.run.attempts + 1) [a]
  { s with usage := r.usage, task := Function.update s.task i ⟨t.run.andThen r, none⟩ }

theorem settle_task (s : Standing ι) (i : ι) (a : Attempt Operation.putObject.Reply) :
    (w.settle s i a).task i =
      ⟨(s.task i).run.andThen
        (runFrom w.client.policy w.fractions s.usage ((s.task i).run.attempts + 1) [a]), none⟩ :=
  Function.update_self _ _ _

def post (s : Standing ι) (i : ι) (sent : Sending) (receive : Reaction → Attempt Response) :
    Standing ι :=
  let t := s.task i
  { s with
    wire := s.wire ++ [(i, t.run.attempts + 1, sent)]
    task := Function.update s.task i ⟨t.run, some receive⟩ }

/-- A turn of a write. If it waits for an answer, the answer comes; otherwise it
sends its request, unless that cannot be sent. A write that has ended has no turns. -/
def turn (s : Standing ι) (i : ι) : Standing ι :=
  let t := s.task i
  match t.run.ending, t.receive? with
  | .pending, some receive =>
    w.settle s i (attempt .putObject (receive (w.reactions i t.run.attempts)))
  | .pending, none =>
    match w.transport.prepare (w.client.sending .putObject (w.request i)) with
    | .error f => w.settle s i ⟨.error (.fault f), []⟩
    | .ok (sent, receive) => post s i sent receive
  | _, _ => s

def after (usage : Usage) (schedule : List ι) : Standing ι :=
  schedule.foldl w.turn (w.start usage)

inductive Turned (s : Standing ι) (i : ι) : Standing ι → Prop where
  | ended (hended : (s.task i).run.ending ≠ .pending) : Turned s i s
  | answered (receive : Reaction → Attempt Response)
    (hpending : (s.task i).run.ending = .pending) (hreceive : (s.task i).receive? = some receive) :
    Turned s i
      (w.settle s i (attempt .putObject (receive (w.reactions i (s.task i).run.attempts))))
  | unsent (f : Fault) (hpending : (s.task i).run.ending = .pending)
    (hreceive : (s.task i).receive? = none)
    (hprepare : w.transport.prepare (w.client.sending .putObject (w.request i)) = .error f) :
    Turned s i (w.settle s i ⟨.error (.fault f), []⟩)
  | sent (sent : Sending) (receive : Reaction → Attempt Response)
    (hpending : (s.task i).run.ending = .pending) (hreceive : (s.task i).receive? = none)
    (hprepare : w.transport.prepare (w.client.sending .putObject (w.request i)) =
      .ok (sent, receive)) :
    Turned s i (post s i sent receive)

/-- Every turn of a write is of one of four kinds. -/
theorem turned (s : Standing ι) (i : ι) : w.Turned s i (w.turn s i) := by
  unfold turn
  dsimp only
  split
  · next receive hpending hreceive => exact .answered receive hpending hreceive
  · next hpending hreceive =>
    split
    · next f hprepare => exact .unsent f hpending hreceive hprepare
    · next sent receive hprepare => exact .sent sent receive hpending hreceive hprepare
  · next hsome hnone =>
    refine .ended fun hpending => ?_
    cases hreceive : (s.task i).receive? with
    | none => exact hnone hpending hreceive
    | some receive => exact hsome receive hpending hreceive

section Frame

variable {w} {s : Standing ι} {i j : ι} {sent : Sending} {receive : Reaction → Attempt Response}

theorem post_task : (post s i sent receive).task i = ⟨(s.task i).run, some receive⟩ :=
  Function.update_self _ _ _

theorem sends_post :
    (post s i sent receive).sends i = s.sends i ++ [((s.task i).run.attempts + 1, sent)] := by
  simp [Standing.sends, post, List.filter_append]

theorem sends_post_of_ne (hij : i ≠ j) : (post s j sent receive).sends i = s.sends i := by
  simp [Standing.sends, post, List.filter_append, hij.symm]

/-- A turn of another write changes nothing about a write, and sends nothing for it. -/
theorem turn_of_ne (hij : i ≠ j) :
    (w.turn s j).task i = s.task i ∧ (w.turn s j).sends i = s.sends i := by
  have hturn := w.turned s j
  generalize w.turn s j = s' at hturn ⊢
  cases hturn with
  | ended hended => exact ⟨rfl, rfl⟩
  | answered receive hpending hreceive => exact ⟨Function.update_of_ne hij _ _, rfl⟩
  | unsent f hpending hreceive hprepare => exact ⟨Function.update_of_ne hij _ _, rfl⟩
  | sent sent receive hpending hreceive hprepare =>
    exact ⟨Function.update_of_ne hij _ _, sends_post_of_ne hij⟩

end Frame

section Projection

variable {w} {s : Standing ι} {i : ι} {turns : ℕ}

/-- What every turn of a write keeps holds after turns in any order, as far as it is
about that write. The induction is on the order of the turns. -/
theorem foldl_turn {P : ℕ → Task → List (ℕ × Sending) → Prop}
    (hown : ∀ turns s, P turns (s.task i) (s.sends i) →
      P (turns + 1) ((w.turn s i).task i) ((w.turn s i).sends i))
    (hstart : P turns (s.task i) (s.sends i)) (schedule : List ι) :
    P (turns + schedule.count i) ((schedule.foldl w.turn s).task i)
      ((schedule.foldl w.turn s).sends i) := by
  induction schedule generalizing s turns with
  | nil => exact hstart
  | cons j schedule ih =>
    rw [List.foldl_cons]
    by_cases hij : i = j
    · subst hij
      have hcount : turns + (i :: schedule).count i = turns + 1 + schedule.count i := by
        rw [List.count_cons_self]
        omega
      rw [hcount]
      exact ih (hown turns s hstart)
    · obtain ⟨htask, hsends⟩ := turn_of_ne (w := w) (s := s) hij
      rw [List.count_cons_of_ne (Ne.symm hij)]
      refine ih ?_
      rwa [htask, hsends]

/-- What the turns of a write keep holds after any schedule: the turns of others do not
count. -/
theorem after_turns {P : ℕ → Task → List (ℕ × Sending) → Prop}
    (hown : ∀ turns s, P turns (s.task i) (s.sends i) →
      P (turns + 1) ((w.turn s i).task i) ((w.turn s i).sends i)) {usage : Usage}
    (hstart : P 0 ((w.start usage).task i) ((w.start usage).sends i)) (schedule : List ι) :
    P (schedule.count i) ((w.after usage schedule).task i) ((w.after usage schedule).sends i) := by
  have hturns := foldl_turn hown hstart schedule
  rwa [Nat.zero_add] at hturns

end Projection

section All

variable [Fintype ι]

def pauses (s : Standing ι) : ℕ := ∑ i, (s.task i).run.sleeps.length

omit [DecidableEq ι] in
theorem pauses_start (usage : Usage) : pauses (w.start usage) = 0 :=
  Finset.sum_eq_zero fun _ _ => rfl

/-- Pauses that one write has made are the pauses that all have made. -/
theorem pauses_of_one {s s' : Standing ι} {i : ι} {more : ℕ}
    (hothers : ∀ j, j ≠ i → s'.task j = s.task j)
    (hown : (s'.task i).run.sleeps.length = (s.task i).run.sleeps.length + more) :
    pauses s' = pauses s + more := by
  have hrest : ∑ j ∈ Finset.univ.erase i, (s'.task j).run.sleeps.length =
      ∑ j ∈ Finset.univ.erase i, (s.task j).run.sleeps.length :=
    Finset.sum_congr rfl fun j hj => by rw [hothers j (Finset.ne_of_mem_erase hj)]
  have hmem : i ∈ Finset.univ := Finset.mem_univ i
  rw [pauses, pauses, ← Finset.add_sum_erase _ _ hmem, ← Finset.add_sum_erase _ _ hmem, hown, hrest]
  omega

theorem pauses_settle (s : Standing ι) (i : ι) (a : Attempt Operation.putObject.Reply) :
    pauses (w.settle s i a) = pauses s +
      (runFrom w.client.policy w.fractions s.usage ((s.task i).run.attempts + 1)
        [a]).sleeps.length := by
  refine pauses_of_one (i := i) (fun j hj => Function.update_of_ne hj _ _) ?_
  rw [settle_task, Run.andThen, List.length_append]

theorem pauses_post (s : Standing ι) (i : ι) (sent : Sending)
    (receive : Reaction → Attempt Response) : pauses (post s i sent receive) = pauses s := by
  have hown : ((post s i sent receive).task i).run.sleeps.length =
      (s.task i).run.sleeps.length + 0 := by
    rw [post_task, Nat.add_zero]
  exact pauses_of_one (fun j hj => Function.update_of_ne hj _ _) hown

/-- Every pause has used up a draw for every layer of jitter, whatever write made it. -/
theorem draws_turn (hfractions : w.fractions.Proper) {drawn : ℕ} {s : Standing ι} (i : ι)
    (h : s.usage.draws = drawn + RetryPolicy.draws w.client.policy.layers * pauses s) :
    (w.turn s i).usage.draws =
      drawn + RetryPolicy.draws w.client.policy.layers * pauses (w.turn s i) := by
  have hsettle : ∀ a, (w.settle s i a).usage.draws =
      drawn + RetryPolicy.draws w.client.policy.layers * pauses (w.settle s i a) := by
    intro a
    rw [pauses_settle, Nat.mul_add, ← Nat.add_assoc, ← h]
    exact draws_runFrom_singleton hfractions a
  have hturn := w.turned s i
  generalize w.turn s i = s' at hturn ⊢
  cases hturn with
  | ended hended => exact h
  | answered receive hpending hwaiting => exact hsettle _
  | unsent f hpending hwaiting hprepare => exact hsettle _
  | sent sent receive hpending hwaiting hprepare =>
    rw [pauses_post]
    exact h

/-- In any order of turns, each pause has taken as many draws as there are layers of
jitter. -/
theorem draws_after (hfractions : w.fractions.Proper) (usage : Usage) (schedule : List ι) :
    (w.after usage schedule).usage.draws = usage.draws +
      RetryPolicy.draws w.client.policy.layers * pauses (w.after usage schedule) := by
  unfold after
  refine List.foldlRecOn schedule w.turn (motive := fun s => s.usage.draws = usage.draws +
    RetryPolicy.draws w.client.policy.layers * pauses s) ?_ ?_
  · rw [pauses_start]
    rfl
  · intro s h i _
    exact w.draws_turn hfractions i h

omit w in
/-- Every request that was sent belongs to one of the writes. -/
theorem length_wire (s : Standing ι) : s.wire.length = ∑ i, (s.sends i).length := by
  have hcount : ∀ i, (s.sends i).length = s.wire.countP fun entry => entry.1 = i := by
    intro i
    rw [Standing.sends, List.length_map, List.countP_eq_length_filter]
  simp only [hcount]
  induction s.wire with
  | nil => simp
  | cons entry wire ih => simp [List.countP_cons, Finset.sum_add_distrib, ← ih]

end All

end Writes

end VersionedStore.Client
