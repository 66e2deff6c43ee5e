import VersionedStore.Proofs.Client.Dialogue
import VersionedStore.Proofs.Message.RoundTrip

/-!
How a read ends that is answered, whatever the status and the body are. A reply
comes back just if the body holds one that is complete; an empty payload or a
version zero is as good as any other. What is no reply at all, what is an
incomplete reply, and what is a refusal end in errors of different classes.
-/

namespace VersionedStore

theorem ErrorClass.within_noSuchKey_iff (c : ErrorClass) :
    c.within .noSuchKey = true ↔ c = .noSuchKey := by
  cases c <;> decide

theorem RefusalGroup.errorClass_ofCode_iff (code : Option ErrorCode) :
    (ofCode code).errorClass = .noSuchKey ↔ code = some .noSuchKey := by
  cases code with
  | none => decide
  | some code => cases code <;> decide

def GetObjectResponse.Complete (reply : GetObjectResponse) : Prop :=
  ∃ kv version, reply.value = some kv ∧ kv.version = some version

def Response.Accepts (r : Response) : Prop := 200 ≤ r.status ∧ r.status < 300

def Response.Blames (r : Response) : Prop := 400 ≤ r.status ∧ r.status < 500

namespace Client

open Retry

variable {r : Response}

theorem accepts_iff : isSuccess r.status = true ↔ r.Accepts := isSuccess_iff

theorem blames_iff : blamesClient r.status = true ↔ r.Blames := blamesClient_iff

theorem promised_of_complete {reply : GetObjectResponse} (hreply : reply.Complete) :
    promised r .getObject reply = .ok reply := by
  obtain ⟨kv, version, hvalue, hversion⟩ := hreply
  simp only [promised, hvalue, hversion]

/-- A reply without a value or without a version breaks the promise of the store. -/
theorem promised_of_not_complete {reply : GetObjectResponse} (hreply : ¬reply.Complete) :
    ∃ part, promised r .getObject reply = .error (incomplete part r) := by
  cases hvalue : reply.value with
  | none => exact ⟨"value", by simp only [promised, hvalue]⟩
  | some kv =>
    cases hversion : kv.version with
    | none => exact ⟨"version", by simp only [promised, hvalue, hversion]⟩
    | some version => exact absurd ⟨kv, version, hvalue, hversion⟩ hreply

section

variable (haccepts : r.Accepts)
include haccepts

theorem get_complete {reply : GetObjectResponse}
    (hdecode : MessageType.getObjectResponse.decode r.body = .ok reply) (hreply : reply.Complete) :
    (exchange .getObject (.answer r)).outcome = .ok reply := by
  have haccept : accept .getObject r = .ok reply := by
    have hbody : Operation.getObject.response.decode r.body = .ok reply := hdecode
    rw [accept, hbody]
    exact promised_of_complete hreply
  rw [exchange_success (accepts_iff.mpr haccepts), haccept]
  rfl

theorem get_incomplete {reply : GetObjectResponse}
    (hdecode : MessageType.getObjectResponse.decode r.body = .ok reply) (hreply : ¬reply.Complete) :
    ∃ part, (exchange .getObject (.answer r)).outcome = .error (.error (incomplete part r)) := by
  obtain ⟨part, hpart⟩ := promised_of_not_complete (r := r) hreply
  have haccept : accept .getObject r = .error (incomplete part r) := by
    have hbody : Operation.getObject.response.decode r.body = .ok reply := hdecode
    rw [accept, hbody]
    exact hpart
  exact ⟨part, by rw [exchange_success (accepts_iff.mpr haccepts), haccept]; rfl⟩

theorem get_malformed {e : DecodeError}
    (hdecode : MessageType.getObjectResponse.decode r.body = .error e) :
    (exchange .getObject (.answer r)).outcome = .error (.error (malformed .getObject r e)) := by
  have haccept : accept .getObject r = .error (malformed .getObject r e) := by
    have hbody : Operation.getObject.response.decode r.body = .error e := hdecode
    rw [accept, hbody]
  rw [exchange_success (accepts_iff.mpr haccepts), haccept]
  rfl

end

theorem get_refused (hrefused : ¬r.Accepts) :
    (exchange .getObject (.answer r)).outcome = .error (.error (refuse .getObject r).1) :=
  exchange_refused (Bool.eq_false_iff.mpr fun h => hrefused (accepts_iff.mp h))

/-- An empty body is read like the empty object. -/
theorem decode_of_isEmpty (t : MessageType) {body : ByteArray} (hempty : body.isEmpty = true) :
    t.decode body = (t.ofJson (.object [])).mapError fun issues => ⟨t, issues⟩ := by
  rw [MessageType.decode, MessageType.check, if_pos hempty]

/-- A report with a known code comes from a body that decodes to it; the body is not empty
then. -/
theorem report?_eq_some {body : ByteArray} {report : ErrorResponse}
    (hcode : report.errorCode ≠ .unknown) :
    (Refusal.report? body).1 = some report ↔
      MessageType.errorResponse.decode body = .ok report := by
  rw [Refusal.report?]
  cases hempty : body.isEmpty with
  | true =>
    have hdecode : MessageType.errorResponse.decode body = .ok ⟨.unknown, ""⟩ :=
      decode_of_isEmpty .errorResponse hempty
    rw [if_pos rfl, hdecode]
    refine iff_of_false nofun fun h => hcode ?_
    rw [← Except.ok.inj h]
  | false =>
    rw [if_neg nofun]
    cases MessageType.errorResponse.decode body <;> simp

/-- The body reports a missing key, but only under a status that blames the client. -/
theorem refuse_isA_noSuchKey_iff {op : Operation} :
    (refuse op r).1.isA .noSuchKey = true ↔ r.Blames ∧
      ∃ report, MessageType.errorResponse.decode r.body = .ok report ∧
        report.errorCode = .noSuchKey := by
  have hclass : (refuse op r).1.errorClass =
      (Refusal.group r.status (Refusal.report? r.body).1).errorClass := rfl
  rw [StoreError.isA, ErrorClass.within_noSuchKey_iff, hclass, Refusal.group]
  cases hblames : blamesClient r.status with
  | false =>
    refine iff_of_false (fun h => by cases h) fun h => ?_
    rw [blames_iff.mpr h.1] at hblames
    cases hblames
  | true =>
    rw [if_pos rfl, and_iff_right (blames_iff.mp hblames), RefusalGroup.errorClass_ofCode_iff,
      Option.map_eq_some_iff]
    constructor
    · intro h
      obtain ⟨report, hreport, hcode⟩ := h
      exact ⟨report, (report?_eq_some (by simp [hcode])).mp hreport, hcode⟩
    · intro h
      obtain ⟨report, hdecode, hcode⟩ := h
      exact ⟨report, (report?_eq_some (by simp [hcode])).mpr hdecode, hcode⟩

structure Answered (r : Response) (ending : Ending GetObjectResponse) : Prop where
  returned : ∀ reply, ending = .returned reply ↔ r.Accepts ∧
    MessageType.getObjectResponse.decode r.body = .ok reply ∧ reply.Complete
  undecodable : r.Accepts → ∀ e, MessageType.getObjectResponse.decode r.body = .error e →
    ∃ err, ending = .raised (.error err) ∧ err.isA .malformed = true ∧
      err.isA .contractViolation = false ∧
      err.failure = .malformed ⟨r.status, r.body, some (.undecodable e)⟩
  lacking : r.Accepts → (r.body = .empty ∨
      ∃ reply, MessageType.getObjectResponse.decode r.body = .ok reply ∧ ¬reply.Complete) →
    ∃ err, ending = .raised (.error err) ∧ err.isA .contractViolation = true
  refused : ¬r.Accepts → ∃ err, ending = .raised (.error err) ∧ err.isA .response = true
  noSuchKey : (∃ err, ending = .raised (.error err) ∧ err.isA .noSuchKey = true) ↔ r.Blames ∧
    ∃ report, MessageType.errorResponse.decode r.body = .ok report ∧
      report.errorCode = .noSuchKey
  stored : r.Accepts → ∀ kv version, kv.version = some version →
    MessageType.digits version ≤ 4300 →
    r.body = MessageType.getObjectResponse.encode ⟨some kv⟩ → ending = .returned ⟨some kv⟩

theorem decode_empty : MessageType.getObjectResponse.decode .empty = .ok ⟨none⟩ := rfl

theorem not_complete_none : ¬GetObjectResponse.Complete ⟨none⟩ := by
  simp [GetObjectResponse.Complete]

/-- A stored value comes back unchanged if its version is not too long for the reader. -/
theorem decode_encode_value {kv : KeyValue} {version : ℤ} (hversion : kv.version = some version)
    (hdigits : MessageType.digits version ≤ 4300) :
    MessageType.getObjectResponse.decode (MessageType.getObjectResponse.encode ⟨some kv⟩) =
      .ok ⟨some kv⟩ := by
  have hreadable : (MessageType.getObjectResponse.toJson ⟨some kv⟩).Readable := by
    rw [MessageType.readable_toJson]
    intro n hn
    obtain rfl : n = version := by
      simpa [MessageType.integers, KeyValue.integers, hversion] using hn
    exact hdigits
  have hdecode := MessageType.decode_encode_eq_ite .getObjectResponse ⟨some kv⟩ trivial
  rw [hdecode, if_pos hreadable]

/-- A read returns just what a complete reply holds. -/
theorem returned_iff (reply : GetObjectResponse) :
    .of (exchange .getObject (.answer r)).outcome = Ending.returned reply ↔ r.Accepts ∧
      MessageType.getObjectResponse.decode r.body = .ok reply ∧ reply.Complete := by
  constructor
  · intro hreturned
    by_cases haccepts : r.Accepts
    · cases hdecode : MessageType.getObjectResponse.decode r.body with
      | error e =>
        rw [get_malformed haccepts hdecode] at hreturned
        cases hreturned
      | ok decoded =>
        by_cases hcomplete : decoded.Complete
        · rw [get_complete haccepts hdecode hcomplete] at hreturned
          cases hreturned
          exact ⟨haccepts, rfl, hcomplete⟩
        · obtain ⟨part, hpart⟩ := get_incomplete haccepts hdecode hcomplete
          rw [hpart] at hreturned
          cases hreturned
    · rw [get_refused haccepts] at hreturned
      cases hreturned
  · intro h
    obtain ⟨haccepts, hdecode, hcomplete⟩ := h
    rw [get_complete haccepts hdecode hcomplete]
    rfl

/-- A read that is accepted does not miss its key, even if it fails. -/
theorem not_isA_noSuchKey_of_accepts (haccepts : r.Accepts) {e : StoreError}
    (herror : error? (exchange .getObject (.answer r)) = some e) :
    e.isA .noSuchKey = false := by
  have hclassified : (Reaction.answer r).Classified := fun e he => by cases he
  have hexplains := explains_of_error? hclassified herror
  rw [StoreError.isA]
  rcases hexplains.malformed r rfl haccepts.1 haccepts.2 with hclass | ⟨-, hclass⟩ <;>
    rw [hclass] <;> rfl

theorem outcome_of_raised {α : Type} {outcome : Except Raised α} {raised : Raised}
    (hraised : Ending.of outcome = .raised raised) : outcome = .error raised := by
  cases outcome with
  | ok x => cases hraised
  | error e =>
    cases hraised
    rfl

theorem answered_exchange (r : Response) :
    Answered r (.of (exchange .getObject (.answer r)).outcome) where
  returned := returned_iff
  undecodable haccepts e hdecode :=
    ⟨malformed .getObject r e, by rw [get_malformed haccepts hdecode]; rfl, rfl, rfl, rfl⟩
  lacking haccepts hbody := by
    have hdecoded : ∃ reply, MessageType.getObjectResponse.decode r.body = .ok reply ∧
        ¬reply.Complete := by
      rcases hbody with hempty | hdecoded
      · exact ⟨⟨none⟩, by rw [hempty, decode_empty], not_complete_none⟩
      · exact hdecoded
    obtain ⟨reply, hdecode, hlacking⟩ := hdecoded
    obtain ⟨part, hpart⟩ := get_incomplete haccepts hdecode hlacking
    exact ⟨incomplete part r, by rw [hpart]; rfl, rfl⟩
  refused hrefused := by
    have hgroup : ∀ group : RefusalGroup, group.errorClass.within .response = true := by
      intro group
      cases group <;> rfl
    exact ⟨(refuse .getObject r).1, by rw [get_refused hrefused]; rfl, hgroup _⟩
  noSuchKey := by
    constructor
    · intro h
      obtain ⟨err, hraised, hkey⟩ := h
      have houtcome := outcome_of_raised hraised
      by_cases haccepts : r.Accepts
      · have hother := not_isA_noSuchKey_of_accepts haccepts (error?_eq_some.mpr houtcome)
        simp [hother] at hkey
      · rw [get_refused haccepts] at houtcome
        cases houtcome
        exact refuse_isA_noSuchKey_iff.mp hkey
    · intro h
      have hrefused : ¬r.Accepts := fun haccepts => by
        obtain ⟨⟨hlow, -⟩, -⟩ := h
        have hhigh := haccepts.2
        omega
      exact ⟨(refuse .getObject r).1, by rw [get_refused hrefused]; rfl,
        refuse_isA_noSuchKey_iff.mpr h⟩
  stored haccepts kv version hversion hdigits hbody :=
    (returned_iff _).mpr ⟨haccepts, by rw [hbody, decode_encode_value hversion hdigits],
      kv, version, rfl, hversion⟩

namespace Dialogue

def blank : Dialogue .getObject where
  client := ⟨"http://store", .never, jsonContentType⟩
  closes := 0
  fractions _ := .zero
  usage := .none
  request := ⟨"store", ""⟩
  reactions _ := .answer ⟨200, MessageType.getObjectResponse.encode ⟨some ⟨"", some 0, .empty⟩⟩⟩

end Dialogue

end Client

end VersionedStore
