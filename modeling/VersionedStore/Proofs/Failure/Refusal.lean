import VersionedStore.Proofs.Client.Exchange
import VersionedStore.Proofs.Message.RoundTrip

/-!
How an answer that is no success is classified, whatever its body holds. The
status alone decides who is to blame, and so whether another attempt may
succeed. A report in the body adds its code and the store's own words; it
refines the class of an error that blames the client, and nothing else.
-/

namespace VersionedStore

namespace StoreError

/-- No error is both the client's and the store's fault. -/
theorem not_isA_server_of_isA_client {e : StoreError} (h : e.isA .client = true) :
    e.isA .server = false := by
  revert h
  rw [isA, isA]
  generalize e.errorClass = c
  cases c <;> decide

theorem kind_eq_server_of_errorClass {e : StoreError} (h : e.errorClass = .server) :
    e.kind = .server := by
  obtain ⟨message, operation, failure⟩ := e
  cases failure with
  | refused group refusal =>
    revert h
    cases group <;> simp [errorClass, kind, Failure.errorClass, Failure.kind,
      RefusalGroup.errorClass, RefusalGroup.kind]
  | _ => cases h

end StoreError

namespace Refusal

def Blames (status : ℤ) : Prop := 400 ≤ status ∧ status < 500

/-- The report that a body holds. An empty body holds none, though it decodes. -/
def Reports (body : ByteArray) (report : ErrorResponse) : Prop :=
  body ≠ .empty ∧ MessageType.errorResponse.decode body = .ok report

/-- The class that the number of an error code refines an error of the client to. -/
inductive Refines : ℤ → ErrorClass → Prop where
  | conflict : Refines 1 .conflict
  | invalidRequest : Refines 2 .invalidRequest
  | noSuchKey : Refines 4 .noSuchKey
  | auth : Refines 5 .auth

structure Classifies (status : ℤ) (body : ByteArray) (e : StoreError) : Prop where
  client : Blames status → e.kind = .client ∧ e.retryable = false ∧
    e.isA .client = true ∧ e.isA .server = false
  server : ¬Blames status → e.kind = .server ∧ e.retryable = true ∧
    e.isA .client = false ∧ e.isA .server = true
  refined : ∀ n c, Refines n c → (e.errorClass = c ↔
    Blames status ∧ ∃ report, Reports body report ∧ report.errorCode.toInt = n)
  kept : e.status? = some status ∧ e.failure.body? = some body
  reported : ∀ report, Reports body report → ∃ group,
    e.failure = .refused group ⟨status, body, some report.errorCode, some report.message⟩
  unreported : (∀ report, ¬Reports body report) → ∃ group,
    e.failure = .refused group ⟨status, body, none, none⟩

def blame (status : ℤ) : String :=
  if 400 ≤ status ∧ status < 500 then "Client error" else "Server error"

/-- What the message of an error says about a refusal: who is to blame, the status, and
the store's own words if the body reports any. -/
structure Worded (status : ℤ) (body : ByteArray) (message : String) : Prop where
  reported : ∀ report, Reports body report → report.message ≠ "" →
    message = blame status ++ ": HTTP " ++ status.repr ++ ": " ++ report.message
  unreported : (∀ report, Reports body report → report.message = "") →
    message = blame status ++ ": HTTP " ++ status.repr

structure Alike (e e' : StoreError) : Prop where
  kind : e.kind = e'.kind
  retryable : e.retryable = e'.retryable
  client : e.isA .client = e'.isA .client
  server : e.isA .server = e'.isA .server

variable {status : ℤ} {body : ByteArray}

theorem isEmpty_iff : body.isEmpty = true ↔ body = .empty := by
  rw [ByteArray.isEmpty, beq_iff_eq, ByteArray.size_eq_zero_iff]

/-- A report is found just where a body that is not empty decodes to one. -/
theorem report?_eq_some_iff {report : ErrorResponse} :
    (report? body).1 = some report ↔ Reports body report := by
  rw [report?, Reports, ne_eq, ← isEmpty_iff]
  by_cases hempty : body.isEmpty = true
  · rw [if_pos hempty]
    exact iff_of_false nofun fun h => h.1 hempty
  · rw [if_neg hempty, and_iff_right hempty]
    cases MessageType.errorResponse.decode body <;> simp

theorem report?_eq_none (hbody : ∀ report, ¬Reports body report) : (report? body).1 = none := by
  rw [Option.eq_none_iff_forall_ne_some]
  intro report hreport
  exact hbody report (report?_eq_some_iff.mp hreport)

/-- What a store encodes as a report is found again. -/
theorem reports_encode (code : ErrorCode) (text : String) :
    Reports (MessageType.errorResponse.encode ⟨code, text⟩) ⟨code, text⟩ := by
  have hreadable : (MessageType.errorResponse.toJson ⟨code, text⟩).Readable := by
    rw [MessageType.readable_toJson]
    intro n hn
    obtain rfl : n = code.toInt := by simpa [MessageType.integers] using hn
    cases code <;> decide
  constructor
  · intro hempty
    have hfull := MessageType.encode_not_isEmpty .errorResponse ⟨code, text⟩
    rw [isEmpty_iff.mpr hempty] at hfull
    cases hfull
  · have hdecode := MessageType.decode_encode_eq_ite .errorResponse ⟨code, text⟩ trivial
    rw [hdecode, if_pos hreadable]

/-- Each of the four classes stands for one code only. -/
theorem errorClass_ofCode_iff {n : ℤ} {c : ErrorClass} (h : Refines n c)
    (code : Option ErrorCode) :
    (RefusalGroup.ofCode code).errorClass = c ↔ ∃ k, code = some k ∧ k.toInt = n := by
  cases code with
  | none => cases h <;> simp [RefusalGroup.ofCode, RefusalGroup.errorClass]
  | some k => cases h <;> cases k <;>
      simp [RefusalGroup.ofCode, RefusalGroup.errorClass, ErrorCode.toInt]

theorem blames_iff : blamesClient status = true ↔ Blames status := Client.blamesClient_iff

theorem not_blames_iff : blamesClient status = false ↔ ¬Blames status := by
  rw [← blames_iff, Bool.not_eq_true]

section

variable (operation : Option String) (body : ByteArray) (report : Option ErrorResponse)

/-- A status that blames the client does so whatever the report says. -/
theorem client_of_blames (h : Blames status) :
    (StoreError.ofReport operation status body report).kind = .client ∧
      (StoreError.ofReport operation status body report).isA .client = true := by
  obtain ⟨hclass, hkind⟩ := Client.group_of_blamesClient (blames_iff.mpr h) report
  exact ⟨hkind, hclass⟩

theorem errorClass_of_not_blames (h : ¬Blames status) :
    (StoreError.ofReport operation status body report).errorClass = .server := by
  have hgroup := Client.group_of_not_blamesClient (not_blames_iff.mpr h) report
  rw [StoreError.errorClass, StoreError.ofReport, hgroup]
  rfl

end

/-- Every refusal is classified, be its body a report or not. -/
theorem classifies_ofRefusal (operation : Option String) (status : ℤ) (body : ByteArray) :
    Classifies status body (StoreError.ofRefusal operation status body).1 where
  client hblames := by
    obtain ⟨hkind, hclient⟩ := client_of_blames operation body (report? body).1 hblames
    exact ⟨hkind, StoreError.not_retryable_of_isA_client hclient, hclient,
      StoreError.not_isA_server_of_isA_client hclient⟩
  server hother := by
    have hclass := errorClass_of_not_blames operation body (report? body).1 hother
    refine ⟨StoreError.kind_eq_server_of_errorClass hclass,
      StoreError.retryable_iff.mpr (.inr hclass), ?_, ?_⟩
    · exact congrArg (·.within .client) hclass
    · exact congrArg (·.within .server) hclass
  refined n c hrefines := by
    have hgroup : (StoreError.ofRefusal operation status body).1.errorClass =
        (group status (report? body).1).errorClass := rfl
    rw [hgroup, group]
    by_cases hblames : Blames status
    · rw [if_pos (blames_iff.mpr hblames), and_iff_right hblames,
        errorClass_ofCode_iff hrefines]
      simp only [Option.map_eq_some_iff, report?_eq_some_iff]
      constructor
      · rintro ⟨k, ⟨report, hreport, rfl⟩, hk⟩
        exact ⟨report, hreport, hk⟩
      · rintro ⟨report, hreport, hk⟩
        exact ⟨_, ⟨report, hreport, rfl⟩, hk⟩
    · rw [not_blames_iff.mpr hblames]
      refine iff_of_false (fun hclass => ?_) fun h => hblames h.1
      cases hrefines <;> cases hclass
  kept := ⟨rfl, rfl⟩
  reported report hreport := by
    have hfound := report?_eq_some_iff.mpr hreport
    exact ⟨group status (some report), by
      simp only [StoreError.ofRefusal, StoreError.ofReport, hfound, Option.map_some]⟩
  unreported hbody := by
    have hnone := report?_eq_none hbody
    exact ⟨group status none, by
      simp only [StoreError.ofRefusal, StoreError.ofReport, hnone, Option.map_none]⟩

theorem worded_ofRefusal (operation : Option String) (status : ℤ) (body : ByteArray) :
    Worded status body (StoreError.ofRefusal operation status body).1.message := by
  have hmessage : ∀ words, ((report? body).1.map (·.message)).getD "" = words →
      (StoreError.ofRefusal operation status body).1.message =
        blame status ++ ": HTTP " ++ status.repr ++ (if words = "" then "" else ": " ++ words) := by
    intro words hwords
    simp only [StoreError.ofRefusal, StoreError.ofReport, message, hwords, blame, blamesClient,
      Bool.and_eq_true, decide_eq_true_eq]
  constructor
  · intro report hreport hne
    rw [hmessage report.message (by rw [report?_eq_some_iff.mpr hreport]; rfl), if_neg hne,
      ← String.append_assoc]
  · intro hsilent
    rw [hmessage "" ?_, if_pos rfl, String.append_empty]
    cases hreport : (report? body).1 with
    | none => rfl
    | some report => exact hsilent report (report?_eq_some_iff.mp hreport)

/-- A refusal is put into words in one way only. -/
theorem Worded.unique {message message' : String} (h : Worded status body message)
    (h' : Worded status body message') : message = message' := by
  by_cases hsilent : ∀ report, Reports body report → report.message = ""
  · rw [h.unreported hsilent, h'.unreported hsilent]
  · push Not at hsilent
    obtain ⟨report, hreport, hne⟩ := hsilent
    rw [h.reported report hreport hne, h'.reported report hreport hne]

theorem errorClass_inj {group group' : RefusalGroup} :
    group.errorClass = group'.errorClass ↔ group = group' := by
  cases group <;> cases group' <;> decide

/-- Within the client's errors, the four refined classes leave just one other. -/
theorem eq_of_within_client {c c' : ErrorClass} (hc : c.within .client = true)
    (hc' : c'.within .client = true) (h : ∀ n d, Refines n d → (c = d ↔ c' = d)) : c = c' := by
  have hconflict := h 1 _ .conflict
  have hinvalid := h 2 _ .invalidRequest
  have hkey := h 4 _ .noSuchKey
  have hauth := h 5 _ .auth
  cases c <;> cases hc <;> cases c' <;> cases hc' <;> simp_all

theorem Classifies.errorClass_eq {e e' : StoreError} (h : Classifies status body e)
    (h' : Classifies status body e') : e.errorClass = e'.errorClass := by
  by_cases hblames : Blames status
  · obtain ⟨-, -, hclient, -⟩ := h.client hblames
    obtain ⟨-, -, hclient', -⟩ := h'.client hblames
    exact eq_of_within_client hclient hclient' fun n c hc =>
      (h.refined n c hc).trans (h'.refined n c hc).symm
  · have hserver : ∀ c : ErrorClass, c.within .server = true → c = .server := by
      intro c hc
      cases c <;> first | rfl | cases hc
    rw [hserver _ (h.server hblames).2.2.2, hserver _ (h'.server hblames).2.2.2]

/-- A refusal is classified in one way only. -/
theorem Classifies.failure_eq {e e' : StoreError} (h : Classifies status body e)
    (h' : Classifies status body e') : e.failure = e'.failure := by
  have hclass := h.errorClass_eq h'
  rw [StoreError.errorClass, StoreError.errorClass] at hclass
  by_cases hbody : ∃ report, Reports body report
  · obtain ⟨report, hreport⟩ := hbody
    obtain ⟨group, hgroup⟩ := h.reported report hreport
    obtain ⟨group', hgroup'⟩ := h'.reported report hreport
    rw [hgroup, hgroup'] at hclass ⊢
    rw [errorClass_inj.mp hclass]
  · rw [not_exists] at hbody
    obtain ⟨group, hgroup⟩ := h.unreported hbody
    obtain ⟨group', hgroup'⟩ := h'.unreported hbody
    rw [hgroup, hgroup'] at hclass ⊢
    rw [errorClass_inj.mp hclass]

/-- Errors for one status are alike, since each side of the blame fixes them. -/
theorem Classifies.alike {body' : ByteArray} {e e' : StoreError} (h : Classifies status body e)
    (h' : Classifies status body' e') : Alike e e' := by
  by_cases hblames : Blames status
  · obtain ⟨hkind, hretry, hclient, hserver⟩ := h.client hblames
    obtain ⟨hkind', hretry', hclient', hserver'⟩ := h'.client hblames
    exact ⟨hkind.trans hkind'.symm, hretry.trans hretry'.symm, hclient.trans hclient'.symm,
      hserver.trans hserver'.symm⟩
  · obtain ⟨hkind, hretry, hclient, hserver⟩ := h.server hblames
    obtain ⟨hkind', hretry', hclient', hserver'⟩ := h'.server hblames
    exact ⟨hkind.trans hkind'.symm, hretry.trans hretry'.symm, hclient.trans hclient'.symm,
      hserver.trans hserver'.symm⟩

/-- The status decides who is to blame, whatever the body; the body adds what
the report in it says, and a report that a store encodes is told unchanged. -/
theorem status_blames_and_body_reports (operation : Option String) (status : ℤ) :
    (∀ body, Classifies status body (StoreError.ofRefusal operation status body).1) ∧
      (∀ body body', Alike (StoreError.ofRefusal operation status body).1
        (StoreError.ofRefusal operation status body').1) ∧
      ∀ code text, ∃ group, (StoreError.ofRefusal operation status
        (MessageType.errorResponse.encode ⟨code, text⟩)).1.failure = .refused group
          ⟨status, MessageType.errorResponse.encode ⟨code, text⟩, some code, some text⟩ := by
  have hclassifies := classifies_ofRefusal operation status
  refine ⟨hclassifies, ?_, ?_⟩
  · intro body body'
    exact (hclassifies body).alike (hclassifies body')
  · intro code text
    exact (hclassifies _).reported _ (reports_encode code text)

/-- An empty body says nothing, while the empty object is a report of its own. -/
example : (report? .empty).1 = none ∧ (report? "\x7b\x7d".toUTF8).1 = some ⟨.unknown, ""⟩ := by
  decide

end Refusal

end VersionedStore
