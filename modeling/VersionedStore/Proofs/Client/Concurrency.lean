import VersionedStore.Proofs.Client.Turns

/-!
Writes at once on one client do not interfere. A write cannot tell the draws of the
others from its own, and a draw only lengthens a pause; so after some turns it stands
where it stands alone after as many turns, whatever the others did in between.
-/

namespace VersionedStore.Client

open Retry

variable {ι : Type}

namespace Writes

section Alone

variable (w : Writes ι)

/-- The outcomes of the attempts of a write. If its request cannot be sent, every
attempt fails with the same fault. -/
def outcome (i : ι) (k : ℕ) : Attempt Operation.putObject.Reply :=
  match w.transport.prepare (w.client.sending .putObject (w.request i)) with
  | .error f => ⟨.error (.fault f), []⟩
  | .ok (_, receive) => attempt .putObject (receive (w.reactions i k))

def alone (i : ι) (fractions : Fractions) (usage : Usage) : Setting Operation.putObject.Reply where
  policy := w.client.policy
  fractions := fractions
  usage := usage
  outcomes := w.outcome i

def call (i : ι) (fractions : Fractions) (usage : Usage) (n : ℕ) : Call .putObject :=
  w.client.call w.transport fractions usage .putObject (w.request i)
    ((List.range n).map (w.reactions i))

variable {w} {i : ι} {fractions' : Fractions} {usage' : Usage} {n : ℕ} {sent : Sending}
  {receive : Reaction → Attempt Response}

theorem outcome_of_sent
    (hprepare : w.transport.prepare (w.client.sending .putObject (w.request i)) =
      .ok (sent, receive)) (k : ℕ) :
    w.outcome i k = attempt .putObject (receive (w.reactions i k)) := by
  rw [outcome, hprepare]

/-- A write whose request can be sent runs alone over the outcomes of its attempts. -/
theorem call_of_sent
    (hprepare : w.transport.prepare (w.client.sending .putObject (w.request i)) =
      .ok (sent, receive)) :
    w.call i fractions' usage' n = ⟨(w.alone i fractions' usage').run n,
      List.replicate ((w.alone i fractions' usage').run n).attempts sent⟩ := by
  have htape : ((List.range n).map (w.reactions i)).map
      (fun r => attempt .putObject (receive r)) = (w.alone i fractions' usage').tape n := by
    rw [List.map_map, Setting.tape]
    exact List.map_congr_left fun k _ => (outcome_of_sent hprepare k).symm
  rw [call, Client.call, hprepare]
  dsimp only
  rw [htape]
  rfl

/-- A write whose request cannot be sent ends at once. -/
theorem call_of_unsent {f : Fault}
    (hprepare : w.transport.prepare (w.client.sending .putObject (w.request i)) = .error f) :
    w.call i fractions' usage' n = ⟨(w.alone i fractions' usage').run 1, []⟩ ∧
      ((w.alone i fractions' usage').run 1).ending = .raised (.fault f) := by
  have htape : (w.alone i fractions' usage').tape 1 = [⟨.error (.fault f), []⟩] := by
    change [w.outcome i 0] = _
    rw [outcome, hprepare]
  rw [call, Client.call, hprepare, Setting.run, htape]
  exact ⟨rfl, rfl⟩

/-- A write alone that has ended stays as it is, however many reactions there are. -/
theorem call_eq_of_ended (hended : (w.call i fractions' usage' n).run.ending ≠ .pending) {m : ℕ}
    (hm : n ≤ m) : w.call i fractions' usage' m = w.call i fractions' usage' n := by
  cases hprepare : w.transport.prepare (w.client.sending .putObject (w.request i)) with
  | error f => rw [(call_of_unsent hprepare).1, (call_of_unsent hprepare).1]
  | ok prepared =>
    rw [call_of_sent hprepare] at hended
    rw [call_of_sent hprepare, call_of_sent hprepare, Setting.run_eq_of_ended hended hm]

/-- Alone, the policy is asked about the attempts in order and about each of them once. -/
theorem consulted_call : (w.call i fractions' usage' n).run.consulted.map Prod.fst =
    List.range' 1 (w.call i fractions' usage' n).run.consulted.length := by
  cases hprepare : w.transport.prepare (w.client.sending .putObject (w.request i)) with
  | error f =>
    rw [(call_of_unsent hprepare).1]
    exact consulted_numbers _
  | ok prepared =>
    rw [call_of_sent hprepare]
    exact consulted_numbers _

end Alone

def numbered (sends : List Sending) : List (ℕ × Sending) := (sends.zipIdx 1).map Prod.swap

theorem numbered_replicate_succ (n : ℕ) (sent : Sending) :
    numbered (List.replicate (n + 1) sent) = numbered (List.replicate n sent) ++ [(n + 1, sent)] := by
  rw [numbered, numbered, List.replicate_succ', List.zipIdx_append, List.map_append,
    List.length_replicate, Nat.add_comm 1 n]
  rfl

/-- How far a write has got after some turns if its request can be sent: it has
heard an answer for every second turn, and sent a request for every first one. -/
structure Abreast (alone : Setting Operation.putObject.Reply) (sent : Sending)
    (receive : Reaction → Attempt Response) (turns : ℕ) (t : Task)
    (sends : List (ℕ × Sending)) : Prop where
  run : t.run.Alike (alone.run (turns / 2))
  receive? : t.run.ending = .pending → t.receive? = if turns % 2 = 0 then none else some receive
  sends : sends = numbered (List.replicate (alone.run ((turns + 1) / 2)).attempts sent)

structure Refused (alone : Setting Operation.putObject.Reply) (turns : ℕ) (t : Task)
    (sends : List (ℕ × Sending)) : Prop where
  run : t.run.Alike (alone.run turns)
  receive? : t.receive? = none
  sends : sends = []

namespace Abreast

variable {alone : Setting Operation.putObject.Reply} {sent : Sending}
  {receive receive' : Reaction → Attempt Response} {turns n : ℕ} {t : Task}
  {sends : List (ℕ × Sending)}

/-- A write waits for an answer after the first turn of two. -/
theorem odd_of_waiting (h : Abreast alone sent receive turns t sends)
    (hpending : t.run.ending = .pending) (hwaiting : t.receive? = some receive') :
    receive' = receive ∧ ∃ n, turns = 2 * n + 1 := by
  have hreceive := h.receive? hpending
  rw [hwaiting] at hreceive
  split_ifs at hreceive with hturns
  exact ⟨Option.some.inj hreceive, turns / 2, by omega⟩

/-- A write rests after the second turn of two. -/
theorem even_of_resting (h : Abreast alone sent receive turns t sends)
    (hpending : t.run.ending = .pending) (hresting : t.receive? = none) :
    ∃ n, turns = 2 * n := by
  have hreceive := h.receive? hpending
  rw [hresting] at hreceive
  split_ifs at hreceive with hturns
  exact ⟨turns / 2, by omega⟩

theorem of_ended (h : Abreast alone sent receive turns t sends)
    (hended : t.run.ending ≠ .pending) : Abreast alone sent receive (turns + 1) t sends := by
  obtain ⟨hrun, -, hsends⟩ := h
  have hended' : (alone.run (turns / 2)).ending ≠ .pending := by rwa [← hrun.ending]
  have hstays : ∀ m, turns / 2 ≤ m → alone.run m = alone.run (turns / 2) :=
    fun m hm => Setting.run_eq_of_ended hended' hm
  refine ⟨?_, fun hpending => absurd hpending hended, ?_⟩
  · rwa [hstays ((turns + 1) / 2) (by omega)]
  · rw [hsends, hstays ((turns + 1) / 2) (by omega), hstays ((turns + 1 + 1) / 2) (by omega)]

/-- An answer leads to the place after the next attempt of the write alone. -/
theorem of_answer (h : Abreast alone sent receive turns t sends) (hodd : turns = 2 * n + 1)
    {t' : Task} (hrun : t'.run.Alike (alone.run (turns / 2 + 1))) (hresting : t'.receive? = none) :
    Abreast alone sent receive (turns + 1) t' sends := by
  have hhalf : (turns + 1) / 2 = turns / 2 + 1 ∧ (turns + 1 + 1) / 2 = turns / 2 + 1 := by omega
  have hsends := h.sends
  rw [hhalf.1] at hsends
  refine ⟨?_, fun _ => ?_, ?_⟩
  · rwa [hhalf.1]
  · rw [hresting, if_pos (by omega)]
  · rwa [hhalf.2]

/-- A request more, for an attempt more of the write alone. -/
theorem of_post (h : Abreast alone sent receive turns t sends) (heven : turns = 2 * n)
    (hpending : t.run.ending = .pending) :
    Abreast alone sent receive (turns + 1) ⟨t.run, some receive⟩
      (sends ++ [(t.run.attempts + 1, sent)]) := by
  have hhalf : turns / 2 = n ∧ (turns + 1) / 2 = n ∧ (turns + 1 + 1) / 2 = n + 1 := by omega
  obtain ⟨hrun, -, hsends⟩ := h
  rw [hhalf.1] at hrun
  have hpending' : (alone.run n).ending = .pending := hrun.ending.symm.trans hpending
  have hattempts := Setting.attempts_of_pending hpending'
  rw [hhalf.2.1, hattempts] at hsends
  refine ⟨?_, fun _ => ?_, ?_⟩
  · rwa [hhalf.2.1]
  · rw [if_neg (by omega)]
  · rw [hsends, hhalf.2.2, Setting.attempts_succ_of_pending hpending', numbered_replicate_succ,
      hrun.attempts, hattempts]

end Abreast

variable [DecidableEq ι]

section Own

variable {w : Writes ι} {s : Standing ι} {i : ι} {fractions' : Fractions} {usage' : Usage}
  {n turns : ℕ} (hbase : ∀ answer, w.client.policy.base ≠ .custom answer)
  (hfractions : w.fractions.Proper) (hfractions' : fractions'.Proper)

include hbase hfractions hfractions'

/-- An attempt of a write takes it one step further along its run alone. -/
theorem settle_alike (hpending : (s.task i).run.ending = .pending)
    (halike : (s.task i).run.Alike ((w.alone i fractions' usage').run n)) :
    ((w.settle s i (w.outcome i (s.task i).run.attempts)).task i).run.Alike
      ((w.alone i fractions' usage').run (n + 1)) := by
  have hpending' : ((w.alone i fractions' usage').run n).ending = .pending :=
    halike.ending.symm.trans hpending
  have hattempts : (s.task i).run.attempts = n :=
    halike.attempts.trans (Setting.attempts_of_pending hpending')
  rw [Setting.run_succ_eq hpending', settle_task, hattempts]
  exact halike.andThen (runFrom_singleton_alike hbase hfractions hfractions' _)

/-- A turn of a write takes it one step further on its own way. -/
theorem abreast_turn {sent : Sending} {receive : Reaction → Attempt Response}
    (hprepare : w.transport.prepare (w.client.sending .putObject (w.request i)) =
      .ok (sent, receive))
    (h : Abreast (w.alone i fractions' usage') sent receive turns (s.task i) (s.sends i)) :
    Abreast (w.alone i fractions' usage') sent receive (turns + 1) ((w.turn s i).task i)
      ((w.turn s i).sends i) := by
  have hturn := w.turned s i
  generalize w.turn s i = s' at hturn ⊢
  cases hturn with
  | ended hended => exact h.of_ended hended
  | answered receive' hpending hwaiting =>
    obtain ⟨rfl, n, hodd⟩ := h.odd_of_waiting hpending hwaiting
    have halike := settle_alike hbase hfractions hfractions' hpending h.run
    rw [outcome_of_sent hprepare] at halike
    exact h.of_answer hodd halike (by rw [settle_task])
  | unsent f hpending hresting hfails =>
    rw [hprepare] at hfails
    cases hfails
  | sent sent' receive' hpending hresting hprepare' =>
    obtain ⟨rfl, rfl⟩ : sent = sent' ∧ receive = receive' := by
      simpa [hprepare] using hprepare'
    obtain ⟨n, heven⟩ := h.even_of_resting hpending hresting
    rw [post_task, sends_post]
    exact h.of_post heven hpending

/-- A write that cannot be sent does in its turns what it does alone. -/
theorem refused_turn {f : Fault}
    (hprepare : w.transport.prepare (w.client.sending .putObject (w.request i)) = .error f)
    (h : Refused (w.alone i fractions' usage') turns (s.task i) (s.sends i)) :
    Refused (w.alone i fractions' usage') (turns + 1) ((w.turn s i).task i)
      ((w.turn s i).sends i) := by
  obtain ⟨hrun, hreceive, hsends⟩ := h
  have hturn := w.turned s i
  generalize w.turn s i = s' at hturn ⊢
  cases hturn with
  | ended hended =>
    have hended' : ((w.alone i fractions' usage').run turns).ending ≠ .pending := by
      rwa [← hrun.ending]
    rw [← Setting.run_eq_of_ended hended' (Nat.le_succ turns)] at hrun
    exact ⟨hrun, hreceive, hsends⟩
  | answered receive hpending hwaiting =>
    rw [hreceive] at hwaiting
    cases hwaiting
  | unsent f' hpending hresting hprepare' =>
    have houtcome : w.outcome i (s.task i).run.attempts = ⟨.error (.fault f'), []⟩ := by
      rw [outcome, hprepare']
    have halike := settle_alike hbase hfractions hfractions' hpending hrun
    rw [houtcome] at halike
    exact ⟨halike, by rw [settle_task], hsends⟩
  | sent sent receive hpending hresting hprepare' =>
    rw [hprepare] at hprepare'
    cases hprepare'

end Own

/-- A write is on a par with itself alone after as many turns of its own: it has
left the same, but for the lengths of its pauses, and sent the same. -/
structure OnPar (w : Writes ι) (i : ι) (fractions : Fractions) (usage : Usage) (turns : ℕ)
    (t : Task) (sends : List (ℕ × Sending)) : Prop where
  run : t.run.Alike (w.call i fractions usage (turns / 2)).run
  sends : sends = numbered (w.call i fractions usage ((turns + 1) / 2)).sends

section Schedule

variable {w : Writes ι} {i : ι} {fractions' : Fractions} {schedule : List ι}
  (hbase : ∀ answer, w.client.policy.base ≠ .custom answer)
  (hfractions : w.fractions.Proper) (hfractions' : fractions'.Proper) (usage usage' : Usage)

include hbase hfractions hfractions'

/-- After any schedule, a write that can be sent is on a par with itself alone. -/
theorem onPar_of_sent {sent : Sending} {receive : Reaction → Attempt Response}
    (hprepare : w.transport.prepare (w.client.sending .putObject (w.request i)) =
      .ok (sent, receive)) :
    w.OnPar i fractions' usage' (schedule.count i) ((w.after usage schedule).task i)
      ((w.after usage schedule).sends i) := by
  have hstart : Abreast (w.alone i fractions' usage') sent receive 0
      ((w.start usage).task i) ((w.start usage).sends i) :=
    ⟨⟨rfl, rfl, rfl, rfl⟩, fun _ => rfl, rfl⟩
  have habreast := after_turns (P := Abreast (w.alone i fractions' usage') sent receive)
    (fun turns s h => abreast_turn hbase hfractions hfractions' hprepare h) hstart schedule
  refine ⟨?_, ?_⟩
  · rw [call_of_sent hprepare]
    exact habreast.run
  · rw [call_of_sent hprepare]
    exact habreast.sends

theorem onPar_of_unsent (hi : i ∈ schedule) {f : Fault}
    (hprepare : w.transport.prepare (w.client.sending .putObject (w.request i)) = .error f) :
    w.OnPar i fractions' usage' (schedule.count i) ((w.after usage schedule).task i)
      ((w.after usage schedule).sends i) := by
  have hstart : Refused (w.alone i fractions' usage') 0
      ((w.start usage).task i) ((w.start usage).sends i) :=
    ⟨⟨rfl, rfl, rfl, rfl⟩, rfl, rfl⟩
  have hrefused := after_turns (P := Refused (w.alone i fractions' usage'))
    (fun turns s h => refused_turn hbase hfractions hfractions' hprepare h) hstart schedule
  have hcall : ∀ n, w.call i fractions' usage' n = ⟨(w.alone i fractions' usage').run 1, []⟩ ∧
      ((w.alone i fractions' usage').run 1).ending = .raised (.fault f) :=
    fun n => call_of_unsent hprepare
  -- the first turn has been the last one
  have hfirst : (w.alone i fractions' usage').run (schedule.count i) =
      (w.alone i fractions' usage').run 1 :=
    Setting.run_eq_of_ended (by rw [(hcall 0).2]; nofun) (List.count_pos_iff.mpr hi)
  refine ⟨?_, ?_⟩
  · rw [(hcall _).1, ← hfirst]
    exact hrefused.run
  · rw [(hcall _).1]
    exact hrefused.sends

/-- After turns in any order, every write that has begun is on a par with itself
alone. -/
theorem onPar_after (hi : i ∈ schedule) :
    w.OnPar i fractions' usage' (schedule.count i) ((w.after usage schedule).task i)
      ((w.after usage schedule).sends i) := by
  cases hprepare : w.transport.prepare (w.client.sending .putObject (w.request i)) with
  | error f => exact onPar_of_unsent hbase hfractions hfractions' usage usage' hi hprepare
  | ok prepared => exact onPar_of_sent hbase hfractions hfractions' usage usage' hprepare

end Schedule

/-- Writes at once on one client do not interfere, in whatever order they take their
turns. Each of them stands where it stands alone after as many turns of its own, with
draws of its own, and has asked the policy about its own attempts in order. If it ends
alone, it has ended likewise, with the same requests, as soon as it has had two turns
for each reaction. The requests on the wire are those of the writes, and a draw was
made for every layer of jitter and every pause. -/
theorem writes_do_not_interfere [Fintype ι] (w : Writes ι)
    (hbase : ∀ answer, w.client.policy.base ≠ .custom answer) (hfractions : w.fractions.Proper)
    (usage : Usage) (schedule : List ι) :
    let s := w.after usage schedule
    (∀ i ∈ schedule, ∀ fractions' : Fractions, fractions'.Proper → ∀ usage',
      let alone := w.call i fractions' usage'
      let turns := schedule.count i
      (s.task i).run.Alike (alone (turns / 2)).run ∧
      s.sends i = numbered (alone ((turns + 1) / 2)).sends ∧
      (s.task i).run.consulted.map Prod.fst = List.range' 1 (s.task i).run.consulted.length ∧
      ∀ n, (alone n).run.ending ≠ .pending → 2 * n ≤ turns →
        (s.task i).run.ending = (alone n).run.ending ∧ s.sends i = numbered (alone n).sends) ∧
    s.wire.length = ∑ i, (s.sends i).length ∧
    s.usage.draws = usage.draws + RetryPolicy.draws w.client.policy.layers *
      ∑ i, (s.task i).run.sleeps.length := by
  intro s
  refine ⟨fun i hi fractions' hfractions' usage' => ?_, length_wire s,
    w.draws_after hfractions usage schedule⟩
  intro alone turns
  obtain ⟨hrun, hsends⟩ := onPar_after hbase hfractions hfractions' usage usage' hi
  refine ⟨hrun, hsends, ?_, fun n hended hturns => ?_⟩
  · rw [hrun.consulted]
    exact consulted_call
  · have hhalf : alone (turns / 2) = alone n := call_eq_of_ended hended (by omega)
    have hnext : alone ((turns + 1) / 2) = alone n := call_eq_of_ended hended (by omega)
    exact ⟨by rw [← hhalf]; exact hrun.ending, by rw [← hnext]; exact hsends⟩

def twoTroubled : Writes Bool where
  client :=
    ⟨"http://store", ⟨.backoff ⟨.zero, none, Binary64.notNegative_zero,
      Backoff.notNegative_of_none_eq_some⟩, [.jitter .zero Binary64.notNegative_zero,
      .maxAttempts standardMaxAttempts one_le_standardMaxAttempts]⟩, jsonContentType⟩
  transport := .custom 0
  fractions _ := .zero
  request i := ⟨if i then "left" else "right", [], [], none⟩
  reactions _ k := if k = 0 then .answer ⟨503, .empty⟩ else .answer ⟨200, .empty⟩

def hasReturned {α : Type} : Ending α → Bool
  | .returned _ => true
  | _ => false

theorem call_twoTroubled (i : Bool) :
    let alone := twoTroubled.call i (fun _ => .zero) .none 2
    hasReturned alone.run.ending = true ∧ alone.run.sleeps.length = 1 ∧
      alone.sends = List.replicate 2
        (twoTroubled.client.sending .putObject (twoTroubled.request i)) := by
  cases i with
  | false => decide +kernel
  | true => decide +kernel

theorem twoTroubled_do_not_interfere :
    let s := twoTroubled.after .none [false, true, true, false, true, false, false, true]
    (∀ i, hasReturned (s.task i).run.ending = true ∧
      s.sends i = numbered (List.replicate 2
        (twoTroubled.client.sending .putObject (twoTroubled.request i)))) ∧
    s.wire.length = 4 ∧ s.usage.draws = 2 := by
  intro s
  have hbase : ∀ answer, twoTroubled.client.policy.base ≠ .custom answer := by
    simp [twoTroubled]
  have hfractions : twoTroubled.fractions.Proper := Fractions.proper_zero
  obtain ⟨hpar, hwire, hdraws⟩ := writes_do_not_interfere twoTroubled hbase hfractions .none
    [false, true, true, false, true, false, false, true]
  have hends : ∀ i, hasReturned (s.task i).run.ending = true ∧
      (s.task i).run.sleeps.length = 1 ∧ s.sends i = numbered (List.replicate 2
        (twoTroubled.client.sending .putObject (twoTroubled.request i))) := by
    intro i
    obtain ⟨hreturned, hpauses, hsends⟩ := call_twoTroubled i
    have hi : i ∈ [false, true, true, false, true, false, false, true] := by cases i <;> decide
    have hcount : [false, true, true, false, true, false, false, true].count i = 4 := by
      cases i <;> decide
    obtain ⟨halike, -, -, hended⟩ := hpar i hi (fun _ => .zero) Fractions.proper_zero .none
    rw [hcount] at halike hended
    have hleft : (twoTroubled.call i (fun _ => .zero) .none 2).run.ending ≠ .pending := by
      intro hpending
      rw [hpending] at hreturned
      cases hreturned
    obtain ⟨hending, hsame⟩ := hended 2 hleft (by decide)
    exact ⟨by rw [hending]; exact hreturned, by rw [halike.pauses]; exact hpauses,
      by rw [hsame, hsends]⟩
  refine ⟨fun i => ⟨(hends i).1, (hends i).2.2⟩, ?_, ?_⟩
  · rw [hwire, Fintype.sum_bool, (hends true).2.2, (hends false).2.2]
    rfl
  · rw [hdraws, Fintype.sum_bool, (hends true).2.1, (hends false).2.1]
    rfl

end Writes

end VersionedStore.Client
