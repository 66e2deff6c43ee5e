import Mathlib.Data.Int.Notation
import VersionedStore.Proofs.Retry.Attempt
import VersionedStore.Client.Basic

/-!
A single exchange of an operation with a far side, through a caller's own
transport. The reaction of the far side alone decides about the class of the
error that the exchange may end with, and what came with an answer is kept.
-/

namespace VersionedStore

namespace StoreError

/-- Another attempt may help just if the far side was not reached or is to blame. -/
theorem retryable_iff {e : StoreError} :
    e.retryable = true ↔ e.errorClass = .transport ∨ e.errorClass = .server := by
  obtain ⟨message, operation, failure⟩ := e
  cases failure with
  | refused group refusal =>
    cases group <;> simp [retryable, errorClass, Failure.retryable, Failure.errorClass,
      RefusalGroup.errorClass]
  | _ => simp [retryable, errorClass, Failure.retryable, Failure.errorClass]

theorem not_retryable_of_isA_client {e : StoreError} (hclient : e.isA .client = true) :
    e.retryable = false := by
  rw [Bool.eq_false_iff, Ne, retryable_iff]
  intro hclass
  rcases hclass with hclass | hclass <;>
    simp [isA, hclass, ErrorClass.within, ErrorClass.lineage] at hclient

end StoreError

/-- An error that a far side raises of its own accord is a transport error. -/
def Reaction.Classified (reaction : Reaction) : Prop :=
  ∀ e, reaction = .failure (.error e) → ∃ cause, e.failure = .transport cause

namespace Client

open Retry

def exchange (op : Operation) (reaction : Reaction) : Attempt op.Reply :=
  attempt op (Transport.receiveCustom reaction)

/-- An error tells what the far side did: its class is a matter of the reaction,
and the status and the body of an answer are kept as they came. -/
structure Explains (op : Operation) (reaction : Reaction) (e : StoreError) : Prop where
  kind : e.kind ≠ .unknown
  transport : ∀ r, reaction = .failure r → e.errorClass = .transport
  client : ∀ r, reaction = .answer r → 400 ≤ r.status → r.status < 500 → e.isA .client = true
  server : ∀ r, reaction = .answer r → ¬(200 ≤ r.status ∧ r.status < 300) →
    ¬(400 ≤ r.status ∧ r.status < 500) → e.errorClass = .server
  malformed : ∀ r, reaction = .answer r → 200 ≤ r.status → r.status < 300 →
    e.errorClass = .malformed ∨ op = .getObject ∧ e.errorClass = .contractViolation
  status : ∀ r, reaction = .answer r → e.status? = some r.status
  body : ∀ r, reaction = .answer r → e.failure.body? = some r.body

namespace Explains

variable {op : Operation} {reaction : Reaction} {e : StoreError}

/-- What is to be shown of an error for an answer. -/
theorem of_answer {r : Response} (hkind : e.kind ≠ .unknown)
    (hclient : 400 ≤ r.status → r.status < 500 → e.isA .client = true)
    (hserver : ¬(200 ≤ r.status ∧ r.status < 300) → ¬(400 ≤ r.status ∧ r.status < 500) →
      e.errorClass = .server)
    (hmalformed : 200 ≤ r.status → r.status < 300 →
      e.errorClass = .malformed ∨ op = .getObject ∧ e.errorClass = .contractViolation)
    (hstatus : e.status? = some r.status) (hbody : e.failure.body? = some r.body) :
    Explains op (.answer r) e := by
  have hanswer : ∀ r', Reaction.answer r = .answer r' → r = r' := fun _ => Reaction.answer.inj
  refine ⟨hkind, ?_, ?_, ?_, ?_, ?_, ?_⟩
  · intro _ hr
    cases hr
  all_goals
    intro r' hr
    obtain rfl := hanswer r' hr
    assumption

/-- An accepted request is never worth another attempt, not even if its answer is
unreadable. -/
theorem not_retryable_of_accepted (h : Explains op reaction e) {r : Response}
    (hr : reaction = .answer r) (hlow : 200 ≤ r.status) (hhigh : r.status < 300) :
    e.retryable = false := by
  rw [Bool.eq_false_iff, Ne, StoreError.retryable_iff]
  rcases h.malformed r hr hlow hhigh with hclass | ⟨-, hclass⟩ <;> simp [hclass]

theorem not_retryable_of_blamed (h : Explains op reaction e) {r : Response}
    (hr : reaction = .answer r) (hlow : 400 ≤ r.status) (hhigh : r.status < 500) :
    e.retryable = false :=
  StoreError.not_retryable_of_isA_client (h.client r hr hlow hhigh)

theorem retryable_of_failure (h : Explains op reaction e) {r : Raised}
    (hr : reaction = .failure r) : e.retryable = true :=
  StoreError.retryable_iff.mpr (.inl (h.transport r hr))

theorem retryable_of_refused (h : Explains op reaction e) {r : Response}
    (hr : reaction = .answer r) (hsuccess : ¬(200 ≤ r.status ∧ r.status < 300))
    (hclient : ¬(400 ≤ r.status ∧ r.status < 500)) : e.retryable = true :=
  StoreError.retryable_iff.mpr (.inr (h.server r hr hsuccess hclient))

end Explains

/-- A transport error gets the name of the operation, unless it names one. -/
theorem exchange_transport {op : Operation} {e : StoreError} {cause : Option Cause}
    (hfailure : e.failure = .transport cause) :
    (exchange op (.failure (.error e))).outcome = .error (.error (e.during op.name)) := by
  simp only [exchange, Transport.receiveCustom, attempt, named, hfailure]

theorem exchange_success {op : Operation} {r : Response} (hstatus : isSuccess r.status = true) :
    (exchange op (.answer r)).outcome = (accept op r).mapError .error := by
  simp only [exchange, Transport.receiveCustom, attempt, hstatus, if_true]

theorem exchange_refused {op : Operation} {r : Response} (hstatus : isSuccess r.status = false) :
    (exchange op (.answer r)).outcome = .error (.error (refuse op r).1) := by
  simp only [exchange, Transport.receiveCustom, attempt, hstatus, Bool.false_eq_true, if_false]

/-- A reply that is accepted is what the body says. -/
theorem decode_of_accept {op : Operation} {r : Response} {reply : op.Reply}
    (haccept : accept op r = .ok reply) : op.response.decode r.body = .ok reply := by
  unfold accept at haccept
  split at haccept
  · cases haccept
  · rename_i decoded hdecode
    have hsame : decoded = reply := by
      cases op with
      | getObject =>
        simp only [promised] at haccept
        split at haccept
        · cases haccept
        · split at haccept
          · cases haccept
          · exact Except.ok.inj haccept
      | _ => exact Except.ok.inj haccept
    rw [hdecode, hsame]

/-- What an answer that is no proper response may fail with. -/
theorem accept_eq_error {op : Operation} {r : Response} {e : StoreError}
    (haccept : accept op r = .error e) :
    e.operation = some op.name ∧ ∃ cause, e.failure = .malformed ⟨r.status, r.body, cause⟩ ∨
      op = .getObject ∧ e.failure = .contractViolation ⟨r.status, r.body, cause⟩ := by
  unfold accept at haccept
  split at haccept
  · obtain rfl := Except.error.inj haccept
    exact ⟨rfl, _, .inl rfl⟩
  · cases op with
    | getObject =>
      simp only [promised] at haccept
      split at haccept
      · obtain rfl := Except.error.inj haccept
        exact ⟨rfl, _, .inr ⟨rfl, rfl⟩⟩
      · split at haccept
        · obtain rfl := Except.error.inj haccept
          exact ⟨rfl, _, .inr ⟨rfl, rfl⟩⟩
        · cases haccept
    | _ => cases haccept

theorem refuse_eq (op : Operation) (r : Response) :
    (refuse op r).1.operation = some op.name ∧
      ∃ report, (refuse op r).1.failure = .refused (Refusal.group r.status report)
        ⟨r.status, r.body, report.map (·.errorCode), report.map (·.message)⟩ :=
  ⟨rfl, _, rfl⟩

/-- The group of a refusal that blames the client is one of the client's. -/
theorem group_of_blamesClient {status : ℤ} (hstatus : blamesClient status = true)
    (report : Option ErrorResponse) :
    ((Refusal.group status report).errorClass.within .client) = true ∧
      (Refusal.group status report).kind = .client := by
  rw [Refusal.group, if_pos hstatus]
  generalize report.map (·.errorCode) = code
  match code with
  | none => exact ⟨rfl, rfl⟩
  | some code => cases code <;> exact ⟨rfl, rfl⟩

/-- Where the client is not to blame the store is, whatever the report tells. -/
theorem group_of_not_blamesClient {status : ℤ} (hstatus : blamesClient status = false)
    (report : Option ErrorResponse) : Refusal.group status report = .server := by
  rw [Refusal.group, hstatus]
  rfl

theorem isSuccess_iff {status : ℤ} : isSuccess status = true ↔ 200 ≤ status ∧ status < 300 := by
  simp [isSuccess]

theorem blamesClient_iff {status : ℤ} :
    blamesClient status = true ↔ 400 ≤ status ∧ status < 500 := by
  simp [blamesClient]

theorem explains_of_accept {op : Operation} {r : Response} {e : StoreError}
    (hstatus : isSuccess r.status = true) (haccept : accept op r = .error e) :
    Explains op (.answer r) e := by
  obtain ⟨hlow, hhigh⟩ := isSuccess_iff.mp hstatus
  have hparts : (e.errorClass = .malformed ∨ op = .getObject ∧ e.errorClass = .contractViolation) ∧
      e.kind ≠ .unknown ∧ e.status? = some r.status ∧ e.failure.body? = some r.body := by
    rw [StoreError.errorClass, StoreError.kind, StoreError.status?]
    obtain ⟨-, cause, hfailure | ⟨hop, hfailure⟩⟩ := accept_eq_error haccept
    · rw [hfailure]
      exact ⟨.inl rfl, nofun, rfl, rfl⟩
    · rw [hfailure]
      exact ⟨.inr ⟨hop, rfl⟩, nofun, rfl, rfl⟩
  obtain ⟨hclass, hkind, hstatus?, hbody⟩ := hparts
  apply Explains.of_answer hkind _ _ _ hstatus? hbody
  · intro hclient
    omega
  · intro hother
    exact absurd ⟨hlow, hhigh⟩ hother
  · intro _ _
    exact hclass

theorem explains_of_refuse {op : Operation} {r : Response} (hstatus : isSuccess r.status = false) :
    Explains op (.answer r) (refuse op r).1 := by
  obtain ⟨-, report, hfailure⟩ := refuse_eq op r
  apply Explains.of_answer
  · rw [StoreError.kind, hfailure, Failure.kind]
    cases hclient : blamesClient r.status with
    | true => rw [(group_of_blamesClient hclient report).2]; nofun
    | false => rw [group_of_not_blamesClient hclient]; nofun
  · intro hlow hhigh
    rw [StoreError.isA, StoreError.errorClass, hfailure]
    exact (group_of_blamesClient (blamesClient_iff.mpr ⟨hlow, hhigh⟩) report).1
  · intro _ hother
    have hserver : blamesClient r.status = false :=
      Bool.eq_false_iff.mpr fun hclient => hother (blamesClient_iff.mp hclient)
    rw [StoreError.errorClass, hfailure, Failure.errorClass, group_of_not_blamesClient hserver]
    rfl
  · intro hlow hhigh
    exact absurd (isSuccess_iff.mpr ⟨hlow, hhigh⟩) (by simp [hstatus])
  · rw [StoreError.status?, hfailure, Failure.status?]
  · rw [hfailure, Failure.body?]

theorem explains_of_transport {op : Operation} {e : StoreError} {cause : Option Cause}
    (hfailure : e.failure = .transport cause) :
    Explains op (.failure (.error e)) (e.during op.name) := by
  have hclass : (e.during op.name).errorClass = .transport := by
    rw [StoreError.errorClass, StoreError.during, hfailure, Failure.errorClass]
  have hkind : (e.during op.name).kind = .transport := by
    rw [StoreError.kind, StoreError.during, hfailure, Failure.kind]
  exact ⟨by simp [hkind], fun _ _ => hclass, nofun, nofun, nofun, nofun, nofun⟩

/-- What an exchange may end with besides a reply or a fault. -/
theorem exchange_error_cases {op : Operation} {reaction : Reaction} {e : StoreError}
    (hclassified : reaction.Classified)
    (herror : error? (exchange op reaction) = some e) :
    (∃ e' cause, reaction = .failure (.error e') ∧ e'.failure = .transport cause ∧
      e = e'.during op.name) ∨
    (∃ r, reaction = .answer r ∧ isSuccess r.status = true ∧ accept op r = .error e) ∨
    ∃ r, reaction = .answer r ∧ isSuccess r.status = false ∧ e = (refuse op r).1 := by
  have houtcome := error?_eq_some.mp herror
  match reaction with
  | .failure (.fault f) => cases houtcome
  | .failure (.error e') =>
    obtain ⟨cause, hcause⟩ := hclassified e' rfl
    rw [exchange_transport hcause] at houtcome
    cases houtcome
    exact .inl ⟨e', cause, rfl, hcause, rfl⟩
  | .answer r =>
    cases hstatus : isSuccess r.status with
    | true =>
      rw [exchange_success hstatus] at houtcome
      cases haccept : accept op r with
      | ok reply => simp [haccept, Except.mapError] at houtcome
      | error e' =>
        rw [haccept] at houtcome
        cases houtcome
        exact .inr (.inl ⟨r, rfl, hstatus, haccept⟩)
    | false =>
      rw [exchange_refused hstatus] at houtcome
      cases houtcome
      exact .inr (.inr ⟨r, rfl, hstatus, rfl⟩)

/-- Whatever error an exchange ends with, the reaction explains it. -/
theorem explains_of_error? {op : Operation} {reaction : Reaction} {e : StoreError}
    (hclassified : reaction.Classified)
    (herror : error? (exchange op reaction) = some e) : Explains op reaction e := by
  rcases exchange_error_cases hclassified herror with
    ⟨e', cause, rfl, hcause, rfl⟩ | ⟨r, rfl, hstatus, haccept⟩ | ⟨r, rfl, hstatus, rfl⟩
  · exact explains_of_transport hcause
  · exact explains_of_accept hstatus haccept
  · exact explains_of_refuse hstatus

end Client

end VersionedStore
