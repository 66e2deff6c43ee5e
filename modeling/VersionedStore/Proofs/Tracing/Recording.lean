import Mathlib.Data.List.Nodup
import VersionedStore.Client.Session

/-!
What the wrapper around an operation leaves behind. It lets the operation pass as
it is, whatever the operation does, and the span of the block can be written down
at once: the attributes are set one after the other, but no name comes up twice;
the status is set twice after a failure, and the second description stays.
-/

namespace VersionedStore

namespace Span

variable {service : String} {op : Operation} {m : op.Request} {failure : Option Raised}

def leading (op : Operation) (m : op.Request) : List (String × AttributeValue) :=
  ("vss.operation", .text op.name) :: requestAttributes op m

def of (service : String) (op : Operation) (m : op.Request) (failure : Option Raised) : Span where
  name := "vss." ++ op.name
  attributes := leading op m ++ (failure.map failureAttributes).getD []
  failure := failure.map fun r => r.name ++ ": " ++ r.text
  service := service

def attributeNames : List String :=
  ["vss.operation", "vss.store_id", "vss.key_sha256", "vss.transaction_item_count",
    "vss.delete_item_count", "error", "error.type", "vss.error_kind", "http.status_code"]

theorem requestAttributes_sublist : ((requestAttributes op m).map Prod.fst).Sublist
    ["vss.store_id", "vss.key_sha256", "vss.transaction_item_count", "vss.delete_item_count"] := by
  have hstore : ∀ s, ((storeAttribute s).map Prod.fst).Sublist ["vss.store_id"] := by
    intro s
    unfold storeAttribute
    split_ifs <;> simp
  cases op with
  | listKeyVersions => exact (hstore m.storeId).trans (by simp)
  | putObject =>
    rw [requestAttributes, List.map_append]
    exact (hstore m.storeId).append (by simp)
  | _ =>
    rw [requestAttributes, List.map_append]
    exact (hstore m.storeId).append (by simp [keyAttribute])

theorem failureAttributes_sublist : (((failure.map failureAttributes).getD []).map Prod.fst).Sublist
    ["error", "error.type", "vss.error_kind", "http.status_code"] := by
  rcases failure with _ | (e | f)
  · exact List.nil_sublist _
  · cases h : e.status? <;> simp [failureAttributes, h]
  · simp [failureAttributes]

/-- Attributes come in a fixed order, with some left out. -/
theorem attributes_sublist (service : String) (op : Operation) (m : op.Request)
    (failure : Option Raised) :
    ((Span.of service op m failure).attributes.map Prod.fst).Sublist attributeNames := by
  rw [Span.of, leading, List.cons_append, List.map_cons, List.map_append]
  exact (requestAttributes_sublist.append failureAttributes_sublist).cons_cons "vss.operation"

/-- No attribute is given twice. -/
theorem nodup_attributes (service : String) (op : Operation) (m : op.Request)
    (failure : Option Raised) :
    ((Span.of service op m failure).attributes.map Prod.fst).Nodup := by
  have hdistinct : attributeNames.Nodup := by decide
  exact (attributes_sublist service op m failure).nodup hdistinct

/-- An attribute with a name of its own goes behind the others. -/
theorem setAttribute_eq {s : Span} {name : String} (value : AttributeValue)
    (h : name ∉ s.attributes.map Prod.fst) :
    s.setAttribute name value = { s with attributes := s.attributes ++ [(name, value)] } := by
  have hkept : s.attributes.filter (fun a => a.1 != name) = s.attributes := by
    refine List.filter_eq_self.mpr fun a ha => bne_iff_ne.mpr fun heq => h ?_
    exact heq ▸ List.mem_map_of_mem ha
  rw [setAttribute, hkept]

/-- Attributes with names of their own are set by writing them down behind the others. -/
theorem setAttributes_eq {s : Span} {as : List (String × AttributeValue)}
    (h : ((s.attributes ++ as).map Prod.fst).Nodup) :
    s.setAttributes as = { s with attributes := s.attributes ++ as } := by
  induction as generalizing s with
  | nil => simp [setAttributes]
  | cons a as ih =>
    have hfresh : a.1 ∉ s.attributes.map Prod.fst := by
      rw [List.map_append, List.nodup_append] at h
      exact fun ha => h.2.2 a.1 ha a.1 (by simp) rfl
    have hrest := ih (s := s.setAttribute a.1 a.2) (by
      rw [setAttribute_eq a.2 hfresh]
      simpa using h)
    rw [setAttribute_eq a.2 hfresh] at hrest
    rw [setAttributes, List.foldl_cons, ← setAttributes, setAttribute_eq a.2 hfresh, hrest,
      List.append_assoc, List.singleton_append]

/-- What a span is told before the operation runs. -/
theorem setAttributes_started :
    ((started service ("vss." ++ op.name)).setAttribute "vss.operation"
      (.text op.name)).setAttributes (requestAttributes op m) = .of service op m none := by
  have hnodup := nodup_attributes service op m none
  rw [setAttributes_eq (by simpa [setAttribute, started, Span.of, leading] using hnodup)]
  simp [setAttribute, started, Span.of, leading]

/-- What a span is told about a failure that passes through the block. -/
theorem setError_setAttributes (r : Raised) :
    (((Span.of service op m none).setAttributes (failureAttributes r)).setError r.name).setError
      (r.name ++ ": " ++ r.text) = .of service op m (some r) := by
  have hnodup := nodup_attributes service op m (some r)
  rw [setAttributes_eq (by simpa [Span.of] using hnodup)]
  simp [setError, Span.of]

end Span

def Tracing.record (t : Tracing) (env : Environment) (op : Operation) (m : op.Request)
    (failure : Option Raised) : Tracing :=
  if enabled env then
    t.finish t.installed (.of (serviceOf t.installed) op m failure)
  else t

namespace Session

variable {op : Operation} {m : op.Request} {s : Session}

/-- Looking at a failure tells the span about it, and changes nothing else. -/
theorem run_rethrowing {block : Spanned (Call op)} {span told : Span} {c : Call op}
    {after : Session} (hblock : (block.run span).run s = ((c, told), after))
    (tell : Raised → Span → Span) :
    ((Call.rethrowing block fun r => modify (tell r)).run span).run s =
      ((c, c.run.failure?.elim told (tell · told)), after) := by
  have hpure : ((Call.rethrowing block fun r => modify (tell r)).run span).run s =
      ((Call.rethrowing (pure c : Spanned (Call op)) fun r => modify (tell r)).run told).run
        after := by
    rw [Call.rethrowing, StateT.run_bind, StateT.run_bind, hblock]
    rfl
  rw [hpure, Call.rethrowing, pure_bind]
  cases c.run.failure? <;> rfl

/-- The span of a block is recorded as the block left it, but for the description. -/
theorem run_withSpan {name : String} {block : Spanned (Call op)} {told : Span} {c : Call op}
    {after : Session}
    (hblock : (block.run (Tracing.start s.tracing.installed name)).run s = ((c, told), after)) :
    (withSpan name block).run s = (c, { after with
      tracing := after.tracing.finish s.tracing.installed
        (c.run.failure?.elim told fun r => told.setError (r.name ++ ": " ++ r.text)) }) := by
  have hdescribed := run_rethrowing hblock fun r span => span.setError (r.name ++ ": " ++ r.text)
  have hspan : (withSpan name block).run s =
      let ended := ((Call.rethrowing block fun r =>
        modify (·.setError (r.name ++ ": " ++ r.text))).run
          (Tracing.start s.tracing.installed name)).run s
      (ended.1.1, { ended.2 with
        tracing := ended.2.tracing.finish s.tracing.installed ended.1.2 }) := rfl
  rw [hspan, hdescribed]

theorem run_liftM (body : StateM Session (Call op)) (span : Span) :
    ((liftM body : Spanned (Call op)).run span).run s =
      (((body.run s).1, span), (body.run s).2) := rfl

/-- In the block, the span is told all but the last description. -/
theorem run_telling {body : StateM Session (Call op)} {c : Call op} {after : Session}
    (hbody : body.run s = (c, after)) (service : String) :
    ((telling op m body).run (.started service ("vss." ++ op.name))).run s =
      ((c, c.run.failure?.elim (Span.of service op m none) fun r =>
        ((Span.of service op m none).setAttributes (Span.failureAttributes r)).setError r.name),
        after) := by
  have hlift : ((liftM body : Spanned (Call op)).run (.of service op m none)).run s =
      ((c, .of service op m none), after) := by rw [run_liftM, hbody]
  rw [← run_rethrowing hlift fun r span =>
    (span.setAttributes (Span.failureAttributes r)).setError r.name, ← Span.setAttributes_started]
  rfl

/-- Switched off, the wrapper is not there at all. -/
theorem run_traced_of_disabled (hoff : Tracing.enabled s.environment = false)
    (body : StateM Session (Call op)) : (traced op m body).run s = body.run s := by
  simp [traced, hoff]

/-- Switched on, tracing adds to an operation that its span ends, and no more. -/
theorem run_traced_of_enabled (hon : Tracing.enabled s.environment = true)
    {body : StateM Session (Call op)} {c : Call op} {after : Session}
    (hbody : body.run s = (c, after)) :
    (traced op m body).run s = (c, { after with
      tracing := after.tracing.finish s.tracing.installed
        (.of (Tracing.serviceOf s.tracing.installed) op m c.run.failure?) }) := by
  have hspan : (traced op m body).run s =
      (withSpan ("vss." ++ op.name) (telling op m body)).run s := by simp [traced, hon]
  rw [hspan, run_withSpan (run_telling hbody _)]
  cases c.run.failure? with
  | none => rfl
  | some r =>
    rw [Option.elim_some, Option.elim_some, Span.setError_setAttributes]

/-- The wrapper returns what the operation returns, whatever the operation is. -/
theorem fst_run_traced (body : StateM Session (Call op)) :
    ((traced op m body).run s).1 = (body.run s).1 := by
  cases henabled : Tracing.enabled s.environment with
  | false => rw [run_traced_of_disabled henabled]
  | true =>
    rcases hbody : body.run s with ⟨c, after⟩
    rw [run_traced_of_enabled henabled hbody]

/-- The wrapper adds nothing to what the operation does with the session but to its
tracing. -/
theorem snd_run_traced (body : StateM Session (Call op)) :
    ((traced op m body).run s).2 =
      { (body.run s).2 with tracing := ((traced op m body).run s).2.tracing } := by
  cases henabled : Tracing.enabled s.environment with
  | false => rw [run_traced_of_disabled henabled]
  | true =>
    rcases hbody : body.run s with ⟨c, after⟩
    rw [run_traced_of_enabled henabled hbody]

variable (s : Session) (fractions : Fractions) (op : Operation) (m : op.Request)
  (reactions : List Reaction)

/-- What an operation of the client leaves behind in the session. -/
theorem call_eq :
    let c := s.client.call s.transport fractions s.usage op m reactions
    s.call fractions op m reactions = ({ s with
      usage := c.run.usage
      tracing := s.tracing.record s.environment op m c.run.failure? }, c) := by
  intro c
  have hbody : (untraced fractions op m reactions).run s =
    (c, { s with usage := c.run.usage }) := rfl
  rw [call]
  cases henabled : Tracing.enabled s.environment with
  | false =>
    rw [run_traced_of_disabled henabled, hbody, Tracing.record, henabled]
    rfl
  | true =>
    rw [run_traced_of_enabled henabled hbody, Tracing.record, henabled]
    rfl

theorem snd_call : (s.call fractions op m reactions).2 =
    s.client.call s.transport fractions s.usage op m reactions := by rw [call_eq]

theorem tracing_call : (s.call fractions op m reactions).1.tracing =
    s.tracing.record s.environment op m (s.call fractions op m reactions).2.run.failure? := by
  rw [call_eq]

end Session

end VersionedStore
