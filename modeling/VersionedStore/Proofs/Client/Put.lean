import VersionedStore.Proofs.Client.Dialogue
import VersionedStore.Proofs.Failure.Refusal
import VersionedStore.Retry.Standard

/-!
How often a write is sent. Under a policy of the library's own, the request is
sent again and again, always the same, up to the first reaction that is the
last one: the write was accepted, or refused with blame on the client, or the
far side failed with a fault, or a layer or the base of the policy stops. In
particular a write that was accepted is never sent again, even if the answer to
it cannot be read.
-/

namespace VersionedStore.Client

open Retry

/-- How an attempt of a write ends. -/
inductive Concluded : Reaction → Ending PutObjectResponse → Prop where
  | replied (r : Response) (hlow : 200 ≤ r.status) (hhigh : r.status < 300)
    (reply : PutObjectResponse) (hreply : MessageType.putObjectResponse.decode r.body = .ok reply) :
    Concluded (.answer r) (.returned reply)
  | malformed (r : Response) (hlow : 200 ≤ r.status) (hhigh : r.status < 300) (e : DecodeError)
    (hbody : MessageType.putObjectResponse.decode r.body = .error e) :
    Concluded (.answer r) (.raised (.error ⟨"Failed to decode PutObjectResponse",
      some "put_object", .malformed ⟨r.status, r.body, some (.undecodable e)⟩⟩))
  | refused (r : Response) (hother : ¬(200 ≤ r.status ∧ r.status < 300)) (e : StoreError)
    (hoperation : e.operation = some "put_object")
    (hclassifies : Refusal.Classifies r.status r.body e)
    (hworded : Refusal.Worded r.status r.body e.message) :
    Concluded (.answer r) (.raised (.error e))
  | undelivered (message : String) (operation : Option String) (cause : Option Cause) :
    Concluded (.failure (.error ⟨message, operation, .transport cause⟩))
      (.raised (.error ⟨message, some (operation.getD "put_object"), .transport cause⟩))
  | fault (f : Fault) : Concluded (.failure (.fault f)) (.raised (.fault f))

/-- The body of an answer that accepts a write is read. -/
theorem concluded_accepted {r : Response} (hstatus : isSuccess r.status = true) :
    Concluded (.answer r) (.of (exchange .putObject (.answer r)).outcome) := by
  obtain ⟨hlow, hhigh⟩ := isSuccess_iff.mp hstatus
  rw [exchange_success hstatus, accept]
  cases hdecode : Operation.putObject.response.decode r.body with
  | ok reply => exact .replied r hlow hhigh reply hdecode
  | error e => exact .malformed r hlow hhigh e hdecode

theorem concluded_refused {r : Response} (hstatus : isSuccess r.status = false) :
    Concluded (.answer r) (.of (exchange .putObject (.answer r)).outcome) := by
  have hother : ¬(200 ≤ r.status ∧ r.status < 300) := by
    rw [← isSuccess_iff, hstatus]
    decide
  rw [exchange_refused hstatus]
  exact .refused r hother _ rfl (Refusal.classifies_ofRefusal ..) (Refusal.worded_ofRefusal ..)

/-- Each reaction concludes an attempt as it should. -/
theorem concluded_exchange {reaction : Reaction} (hclassified : reaction.Classified) :
    Concluded reaction (.of (exchange .putObject reaction).outcome) := by
  match reaction with
  | .failure (.fault f) => exact .fault f
  | .failure (.error ⟨message, operation, failure⟩) =>
    obtain ⟨cause, rfl : failure = .transport cause⟩ := hclassified _ rfl
    rw [exchange_transport rfl]
    cases operation with
    | none => exact .undelivered message none cause
    | some name => exact .undelivered message (some name) cause
  | .answer r =>
    cases hstatus : isSuccess r.status with
    | false => exact concluded_refused hstatus
    | true => exact concluded_accepted hstatus

/-- A reaction concludes an attempt in one way only. -/
theorem Concluded.unique {reaction : Reaction} {ending ending' : Ending PutObjectResponse}
    (h : Concluded reaction ending) (h' : Concluded reaction ending') : ending = ending' := by
  cases h with
  | replied r hlow hhigh reply hreply =>
    cases h' with
    | replied _ _ _ reply' hreply' => rw [Except.ok.inj (hreply.symm.trans hreply')]
    | malformed _ _ _ e hbody => cases hreply.symm.trans hbody
    | refused _ hother => exact absurd ⟨hlow, hhigh⟩ hother
  | malformed r hlow hhigh e hbody =>
    cases h' with
    | replied _ _ _ reply hreply => cases hreply.symm.trans hbody
    | malformed _ _ _ e' hbody' => rw [Except.error.inj (hbody.symm.trans hbody')]
    | refused _ hother => exact absurd ⟨hlow, hhigh⟩ hother
  | refused r hother e hoperation hclassifies hworded =>
    cases h' with
    | replied _ hlow hhigh => exact absurd ⟨hlow, hhigh⟩ hother
    | malformed _ hlow hhigh => exact absurd ⟨hlow, hhigh⟩ hother
    | refused _ _ e' hoperation' hclassifies' hworded' =>
      have hfailure := hclassifies.failure_eq hclassifies'
      have hmessage := hworded.unique hworded'
      have hname := hoperation.trans hoperation'.symm
      have hsame : e = e' := by
        cases e
        cases e'
        rw [StoreError.mk.injEq]
        exact ⟨hmessage, hname, hfailure⟩
      rw [hsame]
  | undelivered message operation cause =>
    cases h' with
    | undelivered => rfl
  | fault f =>
    cases h' with
    | fault => rfl

theorem concluded_error_iff {reaction : Reaction} (hclassified : reaction.Classified)
    {e : StoreError} :
    Concluded reaction (.raised (.error e)) ↔ error? (exchange .putObject reaction) = some e := by
  have hconcluded := concluded_exchange hclassified
  rw [error?_eq_some]
  constructor
  · intro h
    have hending := hconcluded.unique h
    cases houtcome : (exchange .putObject reaction).outcome with
    | ok reply =>
      rw [houtcome] at hending
      cases hending
    | error r =>
      rw [houtcome] at hending
      cases hending
      rfl
  · intro houtcome
    rw [houtcome] at hconcluded
    exact hconcluded

namespace Dialogue

/-- Why the reaction to an attempt is the last one of a write. -/
inductive Last (d : Dialogue .putObject) (k : ℕ) : Prop where
  | accepted (r : Response) (hr : d.reactions k = .answer r) (hlow : 200 ≤ r.status)
    (hhigh : r.status < 300)
  | blamed (r : Response) (hr : d.reactions k = .answer r) (hlow : 400 ≤ r.status)
    (hhigh : r.status < 500)
  | fault (f : Fault) (hf : d.reactions k = .failure (.fault f))
  | bounded (n : ℤ) (positive : 1 ≤ n)
    (hlayer : .maxAttempts n positive ∈ d.client.policy.layers) (hn : n ≤ (k + 1 : ℕ))
  | skipped (test : StoreError → Except Fault Bool) (e : StoreError)
    (hlayer : .skip test ∈ d.client.policy.layers)
    (herror : Concluded (d.reactions k) (.raised (.error e))) (htest : test e = .ok true)
  | never (hbase : d.client.policy.base = .never)

variable {d : Dialogue .putObject} {k : ℕ}

/-- If an error is worth another attempt, the policy alone can make it the last. -/
theorem last_of_stops {e : StoreError} (herror : Concluded (d.reactions k) (.raised (.error e)))
    (hretryable : e.retryable = true) (hstops : d.client.policy.Stops (k + 1 : ℕ) e) :
    d.Last k := by
  rcases hstops with ⟨l, hl, hlayer⟩ | hnever | hfalse
  · cases l with
    | maxAttempts n positive => exact .bounded n positive hl hlayer
    | jitter max notNegative => exact hlayer.elim
    | skip test => exact .skipped test e hl herror hlayer
  · exact .never hnever
  · exact absurd hretryable (by simp [hfalse])

/-- A reaction is the last one by itself or leaves an error worth another attempt. -/
theorem last_or_retryable (hclassified : (d.reactions k).Classified) :
    d.Last k ∨ ∃ e, error? (exchange .putObject (d.reactions k)) = some e ∧
      e.retryable = true := by
  match hreaction : d.reactions k with
  | .failure (.fault f) => exact .inl (.fault f hreaction)
  | .failure (.error e) =>
    rw [hreaction] at hclassified
    obtain ⟨cause, hcause⟩ := hclassified e rfl
    have herror : error? (exchange .putObject (.failure (.error e))) =
        some (e.during Operation.putObject.name) := error?_eq_some.mpr (exchange_transport hcause)
    have hexplains := explains_of_error? hclassified herror
    exact .inr ⟨_, herror, hexplains.retryable_of_failure rfl⟩
  | .answer r =>
    by_cases hsuccess : 200 ≤ r.status ∧ r.status < 300
    · exact .inl (.accepted r hreaction hsuccess.1 hsuccess.2)
    by_cases hclient : 400 ≤ r.status ∧ r.status < 500
    · exact .inl (.blamed r hreaction hclient.1 hclient.2)
    rw [hreaction] at hclassified
    have hstatus : isSuccess r.status = false :=
      Bool.eq_false_iff.mpr fun h => hsuccess (isSuccess_iff.mp h)
    have herror : error? (exchange .putObject (.answer r)) = some (refuse .putObject r).1 :=
      error?_eq_some.mpr (exchange_refused hstatus)
    have hexplains := explains_of_error? hclassified herror
    exact .inr ⟨_, herror, hexplains.retryable_of_refused rfl hsuccess hclient⟩

/-- A reaction is the last one just if it leaves no error or an error at which
the policy stops. -/
theorem last_iff (hclassified : (d.reactions k).Classified) :
    d.Last k ↔ ∀ e, error? (exchange .putObject (d.reactions k)) = some e →
      d.client.policy.Stops (k + 1 : ℕ) e := by
  constructor
  · intro hlast e herror
    have hexplains := explains_of_error? hclassified herror
    cases hlast with
    | accepted r hr hlow hhigh =>
      exact .inr (.inr (hexplains.not_retryable_of_accepted hr hlow hhigh))
    | blamed r hr hlow hhigh =>
      exact .inr (.inr (hexplains.not_retryable_of_blamed hr hlow hhigh))
    | fault f hf =>
      rw [hf] at herror
      cases herror
    | bounded n positive hlayer hn => exact .inl ⟨_, hlayer, hn⟩
    | skipped test e' hlayer herror' htest =>
      rw [concluded_error_iff hclassified, herror] at herror'
      obtain rfl := Option.some.inj herror'
      exact .inl ⟨_, hlayer, htest⟩
    | never hbase => exact .inr (.inl hbase)
  · intro hstops
    rcases last_or_retryable hclassified with hlast | ⟨e, herror, hretryable⟩
    · exact hlast
    · exact last_of_stops ((concluded_error_iff hclassified).mpr herror) hretryable
        (hstops e herror)

/-- The loop is left at the last reactions and at no others, with what they conclude. -/
theorem leaves_iff_last (hpolicy : d.client.policy.Reference) (hfractions : d.fractions.Proper)
    (hclassified : (d.reactions k).Classified) (ending : Ending PutObjectResponse) :
    d.setting.Leaves k ending ↔
      Ending.of (exchange .putObject (d.reactions k)).outcome = ending ∧ d.Last k := by
  rw [last_iff hclassified]
  exact Setting.leaves_iff_of_reference (s := d.setting) hpolicy hfractions

/-- A write is sent as long as no reaction is the last one. -/
theorem put_pending (hpolicy : d.client.policy.Reference) (hfractions : d.fractions.Proper)
    (hclassified : ∀ k, (d.reactions k).Classified) {N : ℕ} (hstay : ∀ k < N, ¬d.Last k) :
    (d.call N).run.ending = .pending ∧ (d.call N).run.attempts = N := by
  have hgo : ∀ k < N, ∀ ending, ¬d.setting.Leaves k ending := fun k hk ending hleaves =>
    hstay k hk ((leaves_iff_last hpolicy hfractions (hclassified k) ending).mp hleaves).2
  obtain ⟨htraces, hpending⟩ := Setting.traces_of_forall_not_leaves hgo
  rw [call_run_put]
  exact ⟨hpending, htraces.attempts⟩

/-- The first last reaction to a write decides how the write ends. -/
theorem put_ended (hpolicy : d.client.policy.Reference) (hfractions : d.fractions.Proper)
    (hclassified : ∀ k, (d.reactions k).Classified) {n N : ℕ} (hlast : d.Last n)
    (hstay : ∀ k < n, ¬d.Last k) (hN : n < N) :
    Concluded (d.reactions n) (d.call N).run.ending ∧ (d.call N).run.attempts = n + 1 := by
  have hgo : ∀ k < n, ∀ ending, ¬d.setting.Leaves k ending := fun k hk ending hleaves =>
    hstay k hk ((leaves_iff_last hpolicy hfractions (hclassified k) ending).mp hleaves).2
  have hleaves := (leaves_iff_last hpolicy hfractions (hclassified n) _).mpr ⟨rfl, hlast⟩
  obtain ⟨htraces, hending⟩ := Setting.traces_of_leaves hleaves hgo hN
  rw [call_run_put, hending]
  exact ⟨concluded_exchange (hclassified n), htraces.attempts⟩

/-- A write is not sent any more after a last reaction, be it the first or not. -/
theorem put_attempts_le (hpolicy : d.client.policy.Reference) (hfractions : d.fractions.Proper)
    (hclassified : ∀ k, (d.reactions k).Classified) (hlast : d.Last k) (N : ℕ) :
    (d.call N).run.attempts ≤ k + 1 := by
  classical
  have hsome : ∃ n, d.Last n := ⟨k, hlast⟩
  have hmin : Nat.find hsome ≤ k := Nat.find_min' hsome hlast
  have hstay : ∀ n < Nat.find hsome, ¬d.Last n := fun n hn => Nat.find_min hsome hn
  by_cases hN : Nat.find hsome < N
  · have hended := put_ended hpolicy hfractions hclassified (Nat.find_spec hsome) hstay hN
    omega
  · have hpending := put_pending hpolicy hfractions hclassified (N := N)
      fun n hn => hstay n (by omega)
    omega

/-- How often a write is sent, what is sent, and how it ends. -/
theorem put_sends_up_to_first_last (d : Dialogue .putObject)
    (hpolicy : d.client.policy.Reference) (hfractions : d.fractions.Proper)
    (hclassified : ∀ k, (d.reactions k).Classified) :
    (∀ N, (∀ k < N, ¬d.Last k) → (d.call N).run.ending = .pending ∧
      (d.call N).sends = List.replicate N
        ⟨d.client.baseUrl ++ "/putObjects", d.client.contentType,
          MessageType.putObjectRequest.encode d.request⟩) ∧
    (∀ n, d.Last n → (∀ k < n, ¬d.Last k) → ∀ N, n < N →
      Concluded (d.reactions n) (d.call N).run.ending ∧
      (d.call N).sends = List.replicate (n + 1)
        ⟨d.client.baseUrl ++ "/putObjects", d.client.contentType,
          MessageType.putObjectRequest.encode d.request⟩) ∧
    ∀ k r, d.reactions k = .answer r →
      200 ≤ r.status ∧ r.status < 300 ∨ 400 ≤ r.status ∧ r.status < 500 →
      ∀ N, (d.call N).sends.length ≤ k + 1 := by
  refine ⟨fun N hstay => ?_, fun n hlast hstay N hN => ?_, fun k r hr hstatus N => ?_⟩
  · obtain ⟨hpending, hattempts⟩ := put_pending hpolicy hfractions hclassified hstay
    exact ⟨hpending, by rw [call_sends, hattempts]; rfl⟩
  · obtain ⟨hending, hattempts⟩ := put_ended hpolicy hfractions hclassified hlast hstay hN
    exact ⟨hending, by rw [call_sends, hattempts]; rfl⟩
  · have hlast : d.Last k := by
      rcases hstatus with ⟨hlow, hhigh⟩ | ⟨hlow, hhigh⟩
      · exact .accepted r hr hlow hhigh
      · exact .blamed r hr hlow hhigh
    rw [call_sends, List.length_replicate]
    exact put_attempts_le hpolicy hfractions hclassified hlast N

def troubled : Dialogue .putObject where
  client :=
    ⟨"http://store", ⟨.backoff ⟨.zero, none, Binary64.notNegative_zero,
      Backoff.notNegative_of_none_eq_some⟩, [.skip fun _ => .ok false,
      .jitter .zero Binary64.notNegative_zero,
      .maxAttempts standardMaxAttempts one_le_standardMaxAttempts]⟩, jsonContentType⟩
  closes := 0
  fractions _ := .zero
  usage := .none
  request := ⟨"store", [], [], none⟩
  reactions k :=
    if k = 0 then .failure (.error ⟨"down", none, .transport none⟩)
    else if k = 1 then .answer ⟨503, .empty⟩
    else .answer ⟨200, ⟨#[0]⟩⟩

/-- Two failures are tried again, and the unreadable answer of a success is not. -/
theorem put_troubled_sends :
    (troubled.call 9).run.ending =
        .raised (.error ⟨"Failed to decode PutObjectResponse", some "put_object",
          .malformed ⟨200, ⟨#[0]⟩,
            some (.undecodable ⟨.putObjectResponse, [⟨.invalidJson, []⟩]⟩)⟩⟩) ∧
      (troubled.call 9).sends = List.replicate 3 ⟨"http://store/putObjects", "application/json",
        MessageType.putObjectRequest.encode troubled.request⟩ := by
  have hpolicy : troubled.client.policy.Reference :=
    ⟨by simp [troubled], by simp [troubled, Layer.Total]⟩
  have hfraction : Binary64.zero.le .zero = true ∧ Binary64.zero.le (.ofInt 1) = true := by
    decide +kernel
  have hclassified : ∀ k, (troubled.reactions k).Classified := by
    intro k e he
    simp only [troubled] at he
    split_ifs at he
    cases he
    exact ⟨none, rfl⟩
  have hlast : troubled.Last 2 := .accepted ⟨200, ⟨#[0]⟩⟩ rfl (by decide) (by decide)
  have hstay : ∀ k < 2, ¬troubled.Last k := by
    intro k hk hlast
    have hreaction : troubled.reactions k = .failure (.error ⟨"down", none, .transport none⟩) ∨
        troubled.reactions k = .answer ⟨503, .empty⟩ := by
      obtain rfl | rfl : k = 0 ∨ k = 1 := by omega
      · exact .inl rfl
      · exact .inr rfl
    cases hlast with
    | accepted r hr hlow hhigh =>
      rcases hreaction with hreaction | hreaction <;> cases hr.symm.trans hreaction
      exact absurd hhigh (by decide)
    | blamed r hr hlow hhigh =>
      rcases hreaction with hreaction | hreaction <;> cases hr.symm.trans hreaction
      exact absurd hhigh (by decide)
    | fault f hf => rcases hreaction with hreaction | hreaction <;> cases hf.symm.trans hreaction
    | bounded n positive hlayer hn =>
      obtain rfl : n = standardMaxAttempts := by simpa [troubled] using hlayer
      rw [standardMaxAttempts] at hn
      omega
    | skipped test e hlayer herror htest =>
      obtain rfl : test = fun _ => .ok false := by simpa [troubled] using hlayer
      cases htest
    | never hbase => cases hbase
  obtain ⟨hconcluded, hsends⟩ := (put_sends_up_to_first_last troubled hpolicy (fun _ => hfraction)
    hclassified).2.1 2 hlast hstay 9 (by decide)
  have hmalformed : Concluded (troubled.reactions 2) _ :=
    .malformed ⟨200, ⟨#[0]⟩⟩ (by decide) (by decide) ⟨.putObjectResponse, [⟨.invalidJson, []⟩]⟩
      (by decide +kernel)
  exact ⟨hconcluded.unique hmalformed, hsends⟩

end Dialogue

end VersionedStore.Client
