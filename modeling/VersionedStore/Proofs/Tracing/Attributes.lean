import VersionedStore.Proofs.Message.WellFormed
import VersionedStore.Proofs.Tracing.Disclosure

/-!
The attributes of a span, one by one. Which attributes a span has is a matter of
what may be told about the request and about the failure, if the operation
failed.
-/

namespace VersionedStore

/-- What a run hands to its caller instead of a value: a failure of the last
attempt, or one of the policy that was asked about it. -/
def Run.Raises {α : Type} (run : Run α) (r : Raised) : Prop :=
  run.ending = .raised r ∨ ∃ f, run.ending = .policyRaised f ∧ r = .fault f

theorem Run.failure?_eq_some_iff {α : Type} {run : Run α} {r : Raised} :
    run.failure? = some r ↔ run.Raises r := by
  unfold Run.failure? Run.Raises
  cases run.ending with
  | raised r' => simp
  | policyRaised f => simp [eq_comm]
  | returned x => simp
  | pending => simp

theorem Run.Raises.ending_ne {α : Type} {run : Run α} {r : Raised} (h : run.Raises r) :
    run.ending ≠ .pending := by
  intro hending
  simp [Run.Raises, hending] at h

/-- A run that has ended raises nothing just if it returns. -/
theorem Run.forall_not_raises_iff {α : Type} {run : Run α} (hended : run.ending ≠ .pending) :
    (∀ r, ¬run.Raises r) ↔ ∃ x, run.ending = .returned x := by
  unfold Run.Raises
  cases hending : run.ending with
  | raised r => simp
  | policyRaised f => simp
  | returned x => simp
  | pending => exact absurd hending hended

namespace Span

inductive TellsRequest (op : Operation) (m : op.Request) : String → AttributeValue → Prop where
  | storeId : TellsRequest op m "vss.store_id" (.text (op.storeId m))
  | key {key : String} (h : op.key? m = some key) : TellsRequest op m "vss.key_sha256"
    (.text (Text.hex (Sha256.digest key.toUTF8.data.toList)))
  | transactionItems {n k : ℕ} (h : op.items? m = some (n, k)) :
    TellsRequest op m "vss.transaction_item_count" (.number n)
  | deleteItems {n k : ℕ} (h : op.items? m = some (n, k)) :
    TellsRequest op m "vss.delete_item_count" (.number k)

inductive TellsFailure (r : Raised) : String → AttributeValue → Prop where
  | error : TellsFailure r "error" (.flag true)
  | className : TellsFailure r "error.type" (.text r.outline.className)
  | kind {k : ErrorKind} (h : r.outline.kind = some k) :
    TellsFailure r "vss.error_kind" (.text k.name)
  | status {n : ℤ} (h : r.outline.status = some n) :
    TellsFailure r "http.status_code" (.number n)

inductive Tells {α : Type} (op : Operation) (m : op.Request) (run : Run α) :
    String → AttributeValue → Prop where
  | operation : Tells op m run "vss.operation" (.text op.name)
  | request {name : String} {value : AttributeValue} (h : TellsRequest op m name value) :
    Tells op m run name value
  | failure {r : Raised} {name : String} {value : AttributeValue} (hr : run.Raises r)
    (h : TellsFailure r name value) : Tells op m run name value

variable {op : Operation} {m : op.Request} {name : String} {value : AttributeValue}

theorem storeId_ne_empty (hm : op.request.WellFormed m) : op.storeId m ≠ "" := by
  cases op with
  | listKeyVersions => exact hm.1
  | _ => exact hm

/-- The attributes of a request that names its store. -/
theorem requestAttributes_eq (hm : op.request.WellFormed m) :
    requestAttributes op m = ("vss.store_id", .text (op.storeId m)) ::
      (((op.key? m).map fun key => ("vss.key_sha256",
          AttributeValue.text (Text.hex (Sha256.digest key.toUTF8.data.toList)))).toList ++
        ((op.items? m).map fun (n, k) =>
          [("vss.transaction_item_count", AttributeValue.number n),
            ("vss.delete_item_count", AttributeValue.number k)]).getD []) := by
  have hstore : storeAttribute (op.storeId m) = [("vss.store_id", .text (op.storeId m))] :=
    if_neg (storeId_ne_empty hm)
  cases op with
  | listKeyVersions => exact hstore
  | _ => exact congrArg (· ++ _) hstore

/-- The attributes of a request are just those that tell about it. -/
theorem mem_requestAttributes_iff (hm : op.request.WellFormed m) :
    (name, value) ∈ requestAttributes op m ↔ TellsRequest op m name value := by
  rw [requestAttributes_eq hm]
  constructor
  · intro h
    rcases List.mem_cons.mp h with h | h
    · obtain ⟨rfl, rfl⟩ := Prod.mk.inj h
      exact .storeId
    rcases List.mem_append.mp h with h | h
    · obtain ⟨key, hkey, hpair⟩ := Option.map_eq_some_iff.mp (Option.mem_toList.mp h)
      obtain ⟨rfl, rfl⟩ := Prod.mk.inj hpair
      exact .key hkey
    · cases hitems : op.items? m with
      | none => simp [hitems] at h
      | some counts =>
        obtain ⟨n, k⟩ := counts
        simp only [hitems, Option.map_some, Option.getD_some, List.mem_pair] at h
        rcases h with h | h
        · obtain ⟨rfl, rfl⟩ := Prod.mk.inj h
          exact .transactionItems hitems
        · obtain ⟨rfl, rfl⟩ := Prod.mk.inj h
          exact .deleteItems hitems
  · intro h
    cases h with
    | storeId => simp
    | key h => simp [h]
    | transactionItems h => simp [h]
    | deleteItems h => simp [h]

theorem failureAttributes_eq (r : Raised) :
    failureAttributes r = ("error", .flag true) :: ("error.type", .text r.outline.className) ::
      ((r.outline.kind.map fun k => ("vss.error_kind", AttributeValue.text k.name)).toList ++
        (r.outline.status.map fun n => ("http.status_code", AttributeValue.number n)).toList) := by
  cases r <;> rfl

theorem mem_failureAttributes_iff {r : Raised} :
    (name, value) ∈ failureAttributes r ↔ TellsFailure r name value := by
  rw [failureAttributes_eq]
  constructor
  · intro h
    rcases List.mem_cons.mp h with h | h
    · obtain ⟨rfl, rfl⟩ := Prod.mk.inj h
      exact .error
    rcases List.mem_cons.mp h with h | h
    · obtain ⟨rfl, rfl⟩ := Prod.mk.inj h
      exact .className
    rcases List.mem_append.mp h with h | h
    · obtain ⟨k, hk, hpair⟩ := Option.map_eq_some_iff.mp (Option.mem_toList.mp h)
      obtain ⟨rfl, rfl⟩ := Prod.mk.inj hpair
      exact .kind hk
    · obtain ⟨n, hn, hpair⟩ := Option.map_eq_some_iff.mp (Option.mem_toList.mp h)
      obtain ⟨rfl, rfl⟩ := Prod.mk.inj hpair
      exact .status hn
  · intro h
    cases h with
    | error => simp
    | className => simp
    | kind h => simp [h]
    | status h => simp [h]

/-- The attributes of a span are just those that tell about its run. -/
theorem mem_attributes_iff {α : Type} {run : Run α} (service : String)
    (hm : op.request.WellFormed m) :
    (name, value) ∈ (Span.of service op m run.failure?).attributes ↔ Tells op m run name value := by
  rw [Span.of, leading, List.mem_append, List.mem_cons, mem_requestAttributes_iff hm]
  constructor
  · rintro ((h | h) | h)
    · obtain ⟨rfl, rfl⟩ := Prod.mk.inj h
      exact .operation
    · exact .request h
    · cases hfailure : run.failure? with
      | none => simp [hfailure] at h
      | some r =>
        rw [hfailure] at h
        exact .failure (Run.failure?_eq_some_iff.mp hfailure) (mem_failureAttributes_iff.mp h)
  · intro h
    cases h with
    | operation => exact .inl (.inl rfl)
    | request h => exact .inl (.inr h)
    | failure hr h =>
      rw [Run.failure?_eq_some_iff.mpr hr]
      exact .inr (mem_failureAttributes_iff.mpr h)

/-- A span is marked as failed just if the run raises something. -/
theorem tells_error_iff {α : Type} {run : Run α} :
    Tells op m run "error" (.flag true) ↔ ∃ r, run.Raises r := by
  constructor
  · intro h
    -- No other attribute is a flag, so the name need not be looked at.
    generalize "error" = name at h
    cases h with
    | request h => cases h
    | failure hr h => exact ⟨_, hr⟩
  · intro h
    obtain ⟨r, hr⟩ := h
    exact .failure hr .error

end Span

end VersionedStore
