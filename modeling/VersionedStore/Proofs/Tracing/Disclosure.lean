import VersionedStore.Proofs.Client.Get
import VersionedStore.Proofs.Message.Language
import VersionedStore.Proofs.Tracing.Recording

/-!
What spans disclose. The attributes of a span tell the store of a request, the
digest of its key and the numbers of its items, and of a failure its class, its
kind and its status; spans that agree in these have the same attributes. The
description of a span repeats a failure in words, though, and these are partly
the words of the far side.
-/

namespace VersionedStore

structure Disclosure where
  storeId : String
  keyDigest : Option String
  items : Option (ℕ × ℕ)
  deriving DecidableEq

structure Outline where
  className : String
  kind : Option ErrorKind
  status : Option ℤ
  deriving DecidableEq

namespace Operation

def key? : (op : Operation) → op.Request → Option String
  | .getObject, m => some m.key
  | .deleteObject, m => some m.key
  | .putObject, _ => none
  | .listKeyVersions, _ => none

def storeId : (op : Operation) → op.Request → String
  | .getObject, m => m.storeId
  | .putObject, m => m.storeId
  | .deleteObject, m => m.storeId
  | .listKeyVersions, m => m.storeId

def items? : (op : Operation) → op.Request → Option (ℕ × ℕ)
  | .putObject, m => some (m.transactionItems.length, m.deleteItems.length)
  | _, _ => none

/-- Of a key, its digest may be told: SHA-256 of its UTF-8 bytes, in hexadecimal digits. -/
def disclosure (op : Operation) (m : op.Request) : Disclosure where
  storeId := op.storeId m
  keyDigest := (op.key? m).map fun key => Text.hex (Sha256.digest key.toUTF8.data.toList)
  items := op.items? m

end Operation

def Raised.outline : Raised → Outline
  | .error e => ⟨e.errorClass.name, some e.kind, e.status?⟩
  | .fault f => ⟨f.kind.name, none, none⟩

theorem Raised.outline_className (r : Raised) : r.outline.className = r.name := by
  cases r <;> rfl

theorem ErrorKind.name_inj {k k' : ErrorKind} : k.name = k'.name ↔ k = k' := by
  cases k <;> cases k' <;> decide

namespace Span

theorem storeAttribute_inj {s s' : String} : storeAttribute s = storeAttribute s' ↔ s = s' := by
  unfold storeAttribute
  split_ifs with h h' h' <;> simp_all

theorem storeAttribute_append_inj {s s' : String} {as as' : List (String × AttributeValue)}
    (hlength : as.length = as'.length) :
    storeAttribute s ++ as = storeAttribute s' ++ as' ↔ s = s' ∧ as = as' := by
  rw [← storeAttribute_inj]
  exact ⟨fun h => List.append_inj' h hlength, fun ⟨h, h'⟩ => by rw [h, h']⟩

theorem keyAttribute_inj {k k' : String} :
    keyAttribute k = keyAttribute k' ↔ keyDigest k = keyDigest k' := by
  simp [keyAttribute]

theorem length_keyAttribute (k : String) : (keyAttribute k).length = 1 := rfl

/-- The attributes of requests agree just if what may be told of them does. -/
theorem requestAttributes_inj {op : Operation} {m m' : op.Request} :
    requestAttributes op m = requestAttributes op m' ↔ op.disclosure m = op.disclosure m' := by
  rw [Operation.disclosure, Operation.disclosure, Disclosure.mk.injEq]
  cases op with
  | listKeyVersions =>
    simp [requestAttributes, Operation.storeId, Operation.key?, Operation.items?,
      storeAttribute_inj]
  | putObject =>
    simp only [requestAttributes]
    rw [storeAttribute_append_inj (by rfl)]
    simp [Operation.storeId, Operation.key?, Operation.items?]
  | _ =>
    simp only [requestAttributes]
    rw [storeAttribute_append_inj (by rw [length_keyAttribute, length_keyAttribute]),
      keyAttribute_inj]
    simp [Operation.storeId, Operation.key?, Operation.items?, keyDigest]

/-- The attributes of failures agree just if their outlines do. -/
theorem failureAttributes_inj {r r' : Raised} :
    failureAttributes r = failureAttributes r' ↔ r.outline = r'.outline := by
  cases r with
  | error e =>
    cases r' with
    | error e' =>
      cases h : e.status? <;> cases h' : e'.status? <;>
       simp [failureAttributes, Raised.outline, Raised.name, ErrorKind.name_inj, h, h']
    | fault f => simp [failureAttributes, Raised.outline]
  | fault f =>
    cases r' with
    | error e' => simp [failureAttributes, Raised.outline]
    | fault f' => simp [failureAttributes, Raised.outline, Raised.name]

def isLeading (a : String × AttributeValue) : Bool := a.1 != "error"

theorem isLeading_of_mem {op : Operation} {m : op.Request} {a : String × AttributeValue}
    (ha : a ∈ leading op m) : isLeading a = true := by
  have hstore : ∀ s, ∀ a ∈ storeAttribute s, isLeading a = true := by
    intro s a ha
    unfold storeAttribute at ha
    split_ifs at ha
    · cases ha
    · obtain rfl := List.mem_singleton.mp ha
      rfl
  rcases List.mem_cons.mp ha with rfl | ha
  · rfl
  · cases op with
    | listKeyVersions => exact hstore _ a ha
    | putObject =>
      rcases List.mem_append.mp ha with ha | ha
      · exact hstore _ a ha
      · rcases List.mem_pair.mp ha with rfl | rfl <;> rfl
    | _ =>
      rcases List.mem_append.mp ha with ha | ha
      · exact hstore _ a ha
      · obtain rfl := List.mem_singleton.mp ha
        rfl

variable {service : String} {op : Operation} {m m' : op.Request} {failure failure' : Option Raised}

/-- The attributes of a failure start with the one that marks it. -/
theorem takeWhile_attributes :
    (Span.of service op m failure).attributes.takeWhile isLeading = leading op m := by
  have hmarked : ((failure.map failureAttributes).getD []).takeWhile isLeading = [] := by
    rcases failure with _ | (e | f) <;> rfl
  have hattributes : (Span.of service op m failure).attributes =
      leading op m ++ (failure.map failureAttributes).getD [] := rfl
  rw [hattributes, List.takeWhile_append_of_pos fun _ => isLeading_of_mem, hmarked,
    List.append_nil]

theorem getD_failureAttributes_inj :
    (failure.map failureAttributes).getD [] = (failure'.map failureAttributes).getD [] ↔
      failure.map Raised.outline = failure'.map Raised.outline := by
  have hne : ∀ r, failureAttributes r ≠ [] := fun r => by simp [failureAttributes]
  cases failure with
  | none =>
    cases failure' with
    | none => simp
    | some r' => simpa using (hne r').symm
  | some r =>
    cases failure' with
    | none => simpa using hne r
    | some r' => simpa using failureAttributes_inj

/-- The attributes of a span tell what may be told, and nothing else. -/
theorem attributes_inj :
    (Span.of service op m failure).attributes = (Span.of service op m' failure').attributes ↔
      op.disclosure m = op.disclosure m' ∧
        failure.map Raised.outline = failure'.map Raised.outline := by
  rw [← requestAttributes_inj, ← getD_failureAttributes_inj]
  -- The attribute that marks a failure shows where those of the request end.
  constructor
  · intro h
    have hleading : leading op m = leading op m' := by
      rw [← takeWhile_attributes, h, takeWhile_attributes]
    have happend : leading op m ++ (failure.map failureAttributes).getD [] =
        leading op m' ++ (failure'.map failureAttributes).getD [] := h
    rw [hleading] at happend
    exact ⟨(List.cons.inj hleading).2, List.append_cancel_left happend⟩
  · intro h
    obtain ⟨hrequest, hfailure⟩ := h
    simp only [Span.of, leading, hrequest, hfailure]

/-- Failures that have the same outline are described alike just if they are the
same in words. -/
theorem description_inj (houtline : failure.map Raised.outline = failure'.map Raised.outline) :
    (Span.of service op m failure).failure = (Span.of service op m' failure').failure ↔
      failure.map Raised.text = failure'.map Raised.text := by
  have hname : failure.map Raised.name = failure'.map Raised.name := by
    simpa [Function.comp_def, Raised.outline_className] using
      congrArg (Option.map Outline.className) houtline
  cases failure with
  | none =>
    cases failure' with
    | none => simp [Span.of]
    | some r' => simp at houtline
  | some r =>
    cases failure' with
    | none => simp at houtline
    | some r' =>
      have hsame : r.name = r'.name := Option.some.inj hname
      simp [Span.of, hsame, String.append_assoc]

/-- Spans with the same attributes differ in the words of their failures only. -/
theorem of_inj :
    Span.of service op m failure = Span.of service op m' failure' ↔
      (Span.of service op m failure).attributes = (Span.of service op m' failure').attributes ∧
        failure.map Raised.text = failure'.map Raised.text := by
  constructor
  · intro h
    have hattributes := congrArg Span.attributes h
    exact ⟨hattributes, (description_inj (attributes_inj.mp hattributes).2).mp
      (congrArg Span.failure h)⟩
  · intro h
    obtain ⟨hattributes, htext⟩ := h
    have hdescription :
        (Span.of service op m failure).failure = (Span.of service op m' failure').failure :=
      (description_inj (attributes_inj.mp hattributes).2).mpr htext
    rw [Span.of, Span.of, Span.mk.injEq]
    exact ⟨rfl, hattributes, hdescription, rfl⟩

end Span

namespace Session

/-- A session that captures the spans of its operations, on behalf of a service. -/
structure Captures (s : Session) (service : String) : Prop where
  enabled : Tracing.enabled s.environment = true
  installed : s.tracing.installed = some ⟨service, true⟩
  captured : s.tracing.captured.isSome = true

variable {s s' : Session} {service : String}

/-- An operation leaves one more span. -/
theorem Captures.spans_call (h : s.Captures service) (fractions : Fractions) (op : Operation)
    (m : op.Request) (reactions : List Reaction) :
    (s.call fractions op m reactions).1.tracing.spans = s.tracing.spans ++
      [Span.of service op m (s.call fractions op m reactions).2.run.failure?] := by
  obtain ⟨spans, hspans⟩ := Option.isSome_iff_exists.mp h.captured
  simp [tracing_call, Tracing.record, Tracing.finish, Tracing.serviceOf, Tracing.spans,
    h.installed, h.enabled, hspans]

/-- Two operations of one kind leave spans that agree in name and service. The
attributes agree just if what may be told of the requests and of the ends agrees,
so the status, which is an error just if the operation failed, agrees as well.
The spans agree altogether just if the failures, if any, are the same in words,
too. -/
theorem call_spans_agree (hs : s.Captures service) (hs' : s'.Captures service)
    (fractions fractions' : Fractions) (op : Operation) (m m' : op.Request)
    (reactions reactions' : List Reaction) :
    let done := s.call fractions op m reactions
    let done' := s'.call fractions' op m' reactions'
    ∃ span span', done.1.tracing.spans = s.tracing.spans ++ [span] ∧
      done'.1.tracing.spans = s'.tracing.spans ++ [span'] ∧
      span.name = span'.name ∧ span.service = span'.service ∧
      span.failure.isSome = done.2.run.failure?.isSome ∧
      span'.failure.isSome = done'.2.run.failure?.isSome ∧
      (span.attributes = span'.attributes ↔ op.disclosure m = op.disclosure m' ∧
        done.2.run.failure?.map Raised.outline = done'.2.run.failure?.map Raised.outline) ∧
      (span = span' ↔ span.attributes = span'.attributes ∧
        done.2.run.failure?.map Raised.text = done'.2.run.failure?.map Raised.text) := by
  intro done done'
  exact ⟨_, _, hs.spans_call fractions op m reactions, hs'.spans_call fractions' op m' reactions',
    rfl, rfl, Option.isSome_map, Option.isSome_map, Span.attributes_inj, Span.of_inj⟩

def switchedOn : Environment :=
  [(Tracing.enabledSwitch, "1"), (Tracing.captureSwitch, "1")]

def capturing : Session where
  client := ⟨"http://store", .never, jsonContentType⟩
  transport := .custom 0
  usage := .none
  tracing := (Tracing.initial.configure switchedOn).1
  environment := switchedOn

theorem captures_capturing : capturing.Captures "vss-client" :=
  ⟨by decide +kernel, by decide +kernel, by decide +kernel⟩

/-- Two listings that ask for different parts of a store and fail on the way. -/
theorem capturing_spans_agree :
    let broken (words : String) : List Reaction := [.failure (.fault ⟨.system, words⟩)]
    let done := capturing.call (fun _ => .zero) .listKeyVersions ⟨"store", some "a", none, none⟩
      (broken "reset")
    let done' := capturing.call (fun _ => .zero) .listKeyVersions ⟨"store", none, some 3, none⟩
      (broken "closed")
    ∃ span span', done.1.tracing.spans = [span] ∧ done'.1.tracing.spans = [span'] ∧
      span.attributes = span'.attributes ∧ span ≠ span' := by
  intro broken done done'
  obtain ⟨span, span', hspan, hspan', -, -, -, -, hattributes, heq⟩ :=
    call_spans_agree captures_capturing captures_capturing (fun _ => .zero) (fun _ => .zero)
      .listKeyVersions ⟨"store", some "a", none, none⟩ ⟨"store", none, some 3, none⟩
      (broken "reset") (broken "closed")
  have hempty : capturing.tracing.spans = [] := by decide +kernel
  rw [hempty, List.nil_append] at hspan hspan'
  have hfailure : ∀ (m : Operation.listKeyVersions.Request) words,
      (capturing.call (fun _ => .zero) .listKeyVersions m (broken words)).2.run.failure? =
        some (.fault ⟨.system, words⟩) := by
    intro m words
    rw [snd_call]
    rfl
  have hreset : done.2.run.failure? = some (.fault ⟨.system, "reset"⟩) := hfailure _ _
  have hclosed : done'.2.run.failure? = some (.fault ⟨.system, "closed"⟩) := hfailure _ _
  have houtline : done.2.run.failure?.map Raised.outline =
      done'.2.run.failure?.map Raised.outline := by
    rw [hreset, hclosed]
    rfl
  have hsame : span.attributes = span'.attributes := hattributes.mpr ⟨rfl, houtline⟩
  refine ⟨span, span', hspan, hspan', hsame, fun h => ?_⟩
  have htext : done.2.run.failure?.map Raised.text = done'.2.run.failure?.map Raised.text :=
    (heq.mp h).2
  rw [hreset, hclosed] at htext
  have hwords : "reset" = "closed" := Option.some.inj htext
  simp at hwords

end Session

namespace StoreError

/-- Refusals with one status are the same in words just if the store's own words
are the same. -/
theorem text_ofReport_inj {operation : Option String} {status : ℤ} {body body' : ByteArray}
    {report report' : ErrorResponse} :
    (ofReport operation status body (some report)).text =
        (ofReport operation status body' (some report')).text ↔
      report.message = report'.message := by
  have hwords : ∀ w w' : String,
      (if w = "" then "" else ": " ++ w) = (if w' = "" then "" else ": " ++ w') ↔ w = w' := by
    intro w w'
    split_ifs with hw hw' hw' <;> simp_all [String.append_right_inj]
  simp only [text, ofReport, Refusal.message, String.append_left_inj, String.append_right_inj,
    Option.map_some, Option.getD_some, hwords]

/-- The outline of a refusal does not depend on the store's own words. -/
theorem outline_ofReport {operation : Option String} {status : ℤ} {body body' : ByteArray}
    {report report' : ErrorResponse} (hcode : report.errorCode = report'.errorCode) :
    (Raised.error (ofReport operation status body (some report))).outline =
      (Raised.error (ofReport operation status body' (some report'))).outline := by
  obtain ⟨code, words⟩ := report
  subst hcode
  rfl

end StoreError

namespace Session

variable {s : Session} {service : String} {op : Operation}

/-- How an operation fails that is refused at once and not tried again. -/
theorem failure?_refused {closes : ℕ} (htransport : s.transport = .custom closes)
    (hop : op ≠ .putObject) (fractions : Fractions) (m : op.Request) {r : Response}
    (hstatus : isSuccess r.status = false) :
    (s.call fractions op m [.answer r]).2.run.failure? =
      some (.error (Client.refuse op r).1) := by
  have hexchange : (Client.exchange op (.answer r)).outcome =
      .error (.error (Client.refuse op r).1) := Client.exchange_refused hstatus
  cases op with
  | putObject => exact absurd rfl hop
  | _ =>
    simp only [snd_call, Client.call, htransport, Transport.prepare, Client.run, List.map_cons,
      Client.once, Run.failure?]
    rw [Client.exchange] at hexchange
    rw [hexchange]

/-- The store's own words reach the span of an operation that it refuses. -/
theorem spans_refused_eq_iff (h : s.Captures service) {closes : ℕ}
    (htransport : s.transport = .custom closes) (hop : op ≠ .putObject) (fractions : Fractions)
    (m : op.Request) {status : ℤ} (hstatus : isSuccess status = false) {body body' : ByteArray}
    {report report' : ErrorResponse} (hreport : (Refusal.report? body).1 = some report)
    (hreport' : (Refusal.report? body').1 = some report')
    (hcode : report.errorCode = report'.errorCode) :
    let done := s.call fractions op m [.answer ⟨status, body⟩]
    let done' := s.call fractions op m [.answer ⟨status, body'⟩]
    done.2.run.failure?.map Raised.outline = done'.2.run.failure?.map Raised.outline ∧
      (done.1.tracing.spans = done'.1.tracing.spans ↔ report.message = report'.message) := by
  intro done done'
  have hrefuse : ∀ {b r}, (Refusal.report? b).1 = some r →
      (Client.refuse op ⟨status, b⟩).1 = .ofReport (some op.name) status b (some r) := by
    intro b r hr
    simp only [Client.refuse, StoreError.ofRefusal, hr]
  have hfailure := failure?_refused htransport hop fractions m (r := ⟨status, body⟩) hstatus
  have hfailure' := failure?_refused htransport hop fractions m (r := ⟨status, body'⟩) hstatus
  rw [hrefuse hreport] at hfailure
  rw [hrefuse hreport'] at hfailure'
  have houtline : done.2.run.failure?.map Raised.outline =
      done'.2.run.failure?.map Raised.outline := by
    rw [hfailure, hfailure', Option.map_some, Option.map_some,
      StoreError.outline_ofReport hcode]
  refine ⟨houtline, ?_⟩
  have htext : done.2.run.failure?.map Raised.text = done'.2.run.failure?.map Raised.text ↔
      report.message = report'.message := by
    rw [hfailure, hfailure', Option.map_some, Option.map_some, Option.some_inj]
    exact StoreError.text_ofReport_inj
  rw [h.spans_call, h.spans_call, List.append_cancel_left_eq, List.cons.injEq, Span.of_inj,
    Span.attributes_inj]
  simp only [and_true, true_and]
  exact (and_iff_right houtline).trans htext

/-- Two reads of one object, refused with one status and one code. The first
refusal repeats the key, which the span tells then. -/
theorem refused_spans_disagree :
    let repeating := "\x7b\"error_code\":4,\"message\":\"no secret\"\x7d".toUTF8
    let silent := "\x7b\"error_code\":4,\"message\":\"gone\"\x7d".toUTF8
    let done (body : ByteArray) := capturing.call (fun _ => .zero) .getObject ⟨"store", "secret"⟩
      [.answer ⟨404, body⟩]
    (done repeating).2.run.failure?.map Raised.outline =
        (done silent).2.run.failure?.map Raised.outline ∧
      (done repeating).1.tracing.spans ≠ (done silent).1.tracing.spans := by
  intro repeating silent done
  have hreport : ∀ {body words}, Json.Grammar.Denotes body
      (.object [("error_code", .integer 4), ("message", .string words)]) →
      (Refusal.report? body).1 = some ⟨.noSuchKey, words⟩ :=
    fun h => (Client.report?_eq_some (by simp)).mpr (MessageType.decode_of_denotes _ h)
  have hrepeating : (Refusal.report? repeating).1 = some ⟨.noSuchKey, "no secret"⟩ :=
    hreport (Json.Grammar.denotes_toUTF8.mpr (by cbv))
  have hsilent : (Refusal.report? silent).1 = some ⟨.noSuchKey, "gone"⟩ :=
    hreport (Json.Grammar.denotes_toUTF8.mpr (by cbv))
  have htransport : capturing.transport = .custom 0 := rfl
  have hop : Operation.getObject ≠ .putObject := by decide
  have hstatus : isSuccess 404 = false := rfl
  obtain ⟨houtline, hspans⟩ := spans_refused_eq_iff captures_capturing htransport hop
    (fun _ => .zero) ⟨"store", "secret"⟩ hstatus hrepeating hsilent rfl
  exact ⟨houtline, fun h => absurd (hspans.mp h) (by decide)⟩

end Session

end VersionedStore
