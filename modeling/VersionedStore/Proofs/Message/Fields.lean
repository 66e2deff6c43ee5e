import VersionedStore.Proofs.Field.Together
import VersionedStore.Proofs.Message.Revalidation
import VersionedStore.Proofs.Message.Versions

/-!
The fields of messages as they are checked. An object is checked field by field, in the
order of declaration and whatever else is in it; so what is reported of a place in a
field is what the check of this field reports.
-/

namespace VersionedStore

open VersionedStore.Field

def FieldKind.check : FieldKind → Raw → Checked Unit
  | .text, r => outcome (Field.text r)
  | .filledText, r => outcome (nonEmptyText r)
  | .integer, r => outcome (Field.integer r)
  | .positiveInteger, r => outcome (integerAbove 0 r)
  | .errorCode, r => outcome (ErrorCode.read r)
  | .payload, r => outcome (Field.payload .wire r)
  | .pair, r => outcome (KeyValue.read .wire r)
  | .optional _, .none => .ok ()
  | .optional kind, r => kind.check r
  | .list kind, .list rs =>
    together (rs.zipIdx.map fun r => Checked.inside (.index r.2) (kind.check r.1))
  | .list _, _ => fail .notList

namespace FieldKind

variable {α : Type} {kind : FieldKind} {read : Raw → Checked α}

/-- A reader that passes, and reports, what the check of a kind does. -/
def Reads (kind : FieldKind) (read : Raw → Checked α) : Prop :=
  ∀ r, outcome (read r) = kind.check r

theorem Reads.optional (h : kind.Reads read) :
    (FieldKind.optional kind).Reads (Field.optional read) := by
  intro r
  cases r with
  | none => rfl
  | _ =>
    rw [check, ← h]
    · exact outcome_map some _
    · simp

theorem Reads.list (h : kind.Reads read) : (FieldKind.list kind).Reads (Field.list read) := by
  intro r
  cases r with
  | list rs =>
    rw [check, Field.list, outcome_elements]
    simp only [h _]
  | _ => rfl

end FieldKind

namespace MessageType

def requiredNames : MessageType → List String
  | .keyValue => ["key"]
  | .getObjectRequest | .deleteObjectRequest => ["store_id", "key"]
  | .putObjectRequest | .listKeyVersionsRequest => ["store_id"]
  | .getObjectResponse | .putObjectResponse | .deleteObjectResponse | .listKeyVersionsResponse
  | .errorResponse => []

def checkField (t : MessageType) (ms : List (String × Json)) (field : String × FieldKind) :
    Checked Unit :=
  if field.1 ∈ t.requiredNames then required (Raw.ofJsonMembers ms) field.1 field.2.check
  else withDefault (Raw.ofJsonMembers ms) field.1 () field.2.check

variable {α β : Type} {t : MessageType} {ms : List (String × Json)} {name : String}
  {kind : FieldKind} {read : Raw → Checked α} {j k : Json} {place : List Step}

/-- A field that must be given passes, and reports, as the check of its kind does. -/
theorem outcome_required_eq (hname : name ∈ t.requiredNames) (h : kind.Reads read) :
    outcome (required (Raw.ofJsonMembers ms) name read) = t.checkField ms (name, kind) := by
  rw [checkField, if_pos hname, outcome_required, funext h]

/-- The same of a field that may be left out, which passes then. -/
theorem outcome_withDefault_eq (hname : name ∉ t.requiredNames) (h : kind.Reads read)
    (default : α) :
    outcome (withDefault (Raw.ofJsonMembers ms) name default read) =
      t.checkField ms (name, kind) := by
  rw [checkField, if_neg hname, outcome_withDefault, funext h]

/-- A check of the fields of an object, one behind the other. -/
def InOrder (t : MessageType) (ms : List (String × Json)) (x : Checked α)
    (fields : List (String × FieldKind)) : Prop :=
  outcome x = together (fields.map (t.checkField ms))

theorem inOrder_ok (x : α) : t.InOrder ms (.ok x) [] := rfl

theorem InOrder.also {f : Checked (α → β)} {x : Checked α} {fields : List (String × FieldKind)}
    {field : String × FieldKind} (hf : t.InOrder ms f fields)
    (hx : outcome x = t.checkField ms field) :
    t.InOrder ms (Checked.also x f) (fields ++ [field]) := by
  rw [InOrder, List.map_append, List.map_singleton, ← hx]
  exact outcome_also_together hf

/-- An object is checked field by field, in the order of declaration. -/
theorem inOrder_ofJson (t : MessageType) (ms : List (String × Json)) :
    t.InOrder ms (t.ofJson (.object ms)) t.fieldKinds := by
  have hpair : FieldKind.pair.Reads (KeyValue.read .wire) := fun _ => rfl
  have htext : FieldKind.text.Reads text := fun _ => rfl
  have hfilled : FieldKind.filledText.Reads nonEmptyText := fun _ => rfl
  have hinteger : FieldKind.integer.Reads integer := fun _ => rfl
  have hpositive : FieldKind.positiveInteger.Reads (integerAbove 0) := fun _ => rfl
  have hcode : FieldKind.errorCode.Reads ErrorCode.read := fun _ => rfl
  have hpayload : FieldKind.payload.Reads (payload .wire) := fun _ => rfl
  cases t with
  | keyValue =>
    exact (((inOrder_ok _).also (outcome_required_eq (by decide) htext)).also
      (outcome_withDefault_eq (by decide) hinteger.optional _)).also
      (outcome_withDefault_eq (by decide) hpayload _)
  | getObjectRequest =>
    exact ((inOrder_ok _).also (outcome_required_eq (by decide) hfilled)).also
      (outcome_required_eq (by decide) htext)
  | getObjectResponse =>
    exact (inOrder_ok _).also (outcome_withDefault_eq (by decide) hpair.optional _)
  | putObjectRequest =>
    exact ((((inOrder_ok _).also (outcome_required_eq (by decide) hfilled)).also
      (outcome_withDefault_eq (by decide) hpair.list _)).also
      (outcome_withDefault_eq (by decide) hpair.list _)).also
      (outcome_withDefault_eq (by decide) hinteger.optional _)
  | putObjectResponse => exact inOrder_ok _
  | deleteObjectRequest =>
    exact (((inOrder_ok _).also (outcome_required_eq (by decide) hfilled)).also
      (outcome_required_eq (by decide) htext)).also
      (outcome_withDefault_eq (by decide) hinteger.optional _)
  | deleteObjectResponse => exact inOrder_ok _
  | listKeyVersionsRequest =>
    exact ((((inOrder_ok _).also (outcome_required_eq (by decide) hfilled)).also
      (outcome_withDefault_eq (by decide) htext.optional _)).also
      (outcome_withDefault_eq (by decide) hpositive.optional _)).also
      (outcome_withDefault_eq (by decide) htext.optional _)
  | listKeyVersionsResponse =>
    exact (((inOrder_ok _).also (outcome_withDefault_eq (by decide) hpair.list _)).also
      (outcome_withDefault_eq (by decide) htext.optional _)).also
      (outcome_withDefault_eq (by decide) hinteger.optional _)
  | errorResponse =>
    exact ((inOrder_ok _).also (outcome_withDefault_eq (by decide) hcode _)).also
      (outcome_withDefault_eq (by decide) htext _)

/-- The check of a field reports nothing about other fields. -/
theorem problemsAt_checkField_of_ne {field : String × FieldKind} (h : field.1 ≠ name) :
    problemsAt (.name name :: place) (issues (t.checkField ms field)) = [] := by
  unfold checkField
  split_ifs
  · exact problemsAt_required_of_ne h
  · exact problemsAt_withDefault_of_ne h

/-- What is reported of a field is what the check of its kind finds in its value. -/
theorem problemsAt_checkField (hk : (Json.object ms).member? name = some k) :
    problemsAt (.name name :: place) (issues (t.checkField ms (name, kind))) =
      problemsAt place (issues (kind.check (Raw.ofJson k))) := by
  have hlookup : lookup? name (Raw.ofJsonMembers ms) = some (Raw.ofJson k) := by
    rw [lookup?_ofJsonMembers, hk, Option.map_some]
  unfold checkField
  split_ifs
  · rw [required, hlookup, problemsAt_inside, if_pos rfl]
  · exact problemsAt_withDefault hlookup

/-- Of a place in a field, only the check of this field reports. -/
theorem problemsAt_fields {fields : List (String × FieldKind)}
    (hnames : (fields.map Prod.fst).Nodup) (hmem : (name, kind) ∈ fields) :
    problemsAt (.name name :: place) (fields.flatMap fun field => issues (t.checkField ms field)) =
      problemsAt (.name name :: place) (issues (t.checkField ms (name, kind))) := by
  have hother {others : List (String × FieldKind)} (h : name ∉ others.map Prod.fst) :
      problemsAt (.name name :: place)
        (others.flatMap fun field => issues (t.checkField ms field)) = [] := by
    rw [problemsAt_flatMap, List.flatMap_eq_nil_iff]
    intro field hfield
    exact problemsAt_checkField_of_ne fun h' => h (h' ▸ List.mem_map_of_mem hfield)
  obtain ⟨before, after, rfl⟩ := List.append_of_mem hmem
  rw [List.map_append, List.map_cons, List.nodup_middle, List.nodup_cons, List.mem_append,
    not_or] at hnames
  obtain ⟨⟨hbefore, hafter⟩, -⟩ := hnames
  rw [List.flatMap_append, List.flatMap_cons, problemsAt_append, problemsAt_append,
    hother hbefore, hother hafter, List.nil_append, List.append_nil]

theorem nodup_fieldKinds (t : MessageType) : (t.fieldKinds.map Prod.fst).Nodup := by
  cases t <;> decide

theorem exists_members_of_member? (h : j.member? name = some k) : ∃ ms, j = .object ms := by
  cases j with
  | object ms => exact ⟨ms, rfl⟩
  | _ => cases h

/-- Of a place in a field that is given, the check of its value reports. -/
theorem problemsAt_field (hfield : (name, kind) ∈ t.fieldKinds) (hk : j.member? name = some k) :
    problemsAt (.name name :: place) (issues (t.ofJson j)) =
      problemsAt place (issues (kind.check (Raw.ofJson k))) := by
  obtain ⟨ms, rfl⟩ := exists_members_of_member? hk
  rw [← issues_outcome, inOrder_ofJson, issues_together, List.flatMap_map,
    problemsAt_fields t.nodup_fieldKinds hfield, problemsAt_checkField hk]

theorem problemsAt_check_optional {r : Raw} (h : r ≠ .none) :
    problemsAt place (issues ((FieldKind.optional kind).check r)) =
      problemsAt place (issues (kind.check r)) := by
  cases r with
  | none => exact absurd rfl h
  | _ => rfl

/-- Of a place in an element of a list, the check of this element reports. -/
theorem problemsAt_check_list {js : List Json} {i : ℕ} (hj : js[i]? = some j) :
    problemsAt (.index i :: place) (issues ((FieldKind.list kind).check (Raw.ofJson (.array js)))) =
      problemsAt place (issues (kind.check (Raw.ofJson j))) := by
  have hread : kind.Reads kind.check := fun r => outcome_self _
  have hitem : (js.map Raw.ofJson)[i]? = some (Raw.ofJson j) := by
    rw [List.getElem?_map, hj, Option.map_some]
  rw [← hread.list, issues_outcome, Raw.ofJson, ofJsonItems_eq, list,
    ← problemsAt_elements (k := 0) hitem, Nat.zero_add]

/-- Of the places in a pair, the pair itself reports. -/
theorem issues_check_pair (j : Json) :
    issues (FieldKind.pair.check (Raw.ofJson j)) = issues (ofJson .keyValue j) := by
  rw [FieldKind.check, issues_outcome, ofJson]
  cases Raw.ofJson j <;> rfl

end MessageType

end VersionedStore
