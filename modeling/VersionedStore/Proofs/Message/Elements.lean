import VersionedStore.Proofs.Json.Grammar.Nesting
import VersionedStore.Proofs.Message.Payload

/-!
Messages decoded part by part. Every field of a body is checked by itself, and every
element of a list as the body that it is alone. A message is built just if all of its
parts are valid, and then it holds what its parts are decoded to; otherwise all that is
reported of the parts is reported of the message, in the order of the fields and of the
elements, with the way to the part in front.
-/

namespace VersionedStore

open VersionedStore.Field

def Field.placed (way : List Step) (is : List Issue) : List Issue :=
  is.map fun i => { i with place := way ++ i.place }

namespace MessageType

open Json.Grammar

def details (t : MessageType) (body : ByteArray) : List Issue :=
  match t.decode body with
  | .ok _ => []
  | .error e => e.issues

/-- The elements of the lists of pairs in an object, each as a body of its own. -/
def Apart (t : MessageType) (ms : List (String × Json)) (parts : String → List ByteArray) : Prop :=
  ∀ name ∈ t.pairListNames, List.Forall₂ Denotes (parts name) ((Json.object ms).itemsOf name)

section Statement

variable (t : MessageType) (ms : List (String × Json)) (parts : String → List ByteArray)

/-- Whether a field is valid by itself: a list of pairs, if each element alone can be
decoded as a pair; any other field, if its check passes. -/
def ValidAlone (field : String × FieldKind) : Prop :=
  if field.1 ∈ t.pairListNames then
    (∀ j, (Json.object ms).member? field.1 = some j → ∃ js, j = .array js) ∧
      ∀ part ∈ parts field.1, ∃ kv, decode .keyValue part = .ok kv
  else t.checkField ms field = .ok ()

/-- What is reported of a field by itself; of a list of pairs, what is reported of each
element alone, in order. -/
def detailsAlone (field : String × FieldKind) : List Issue :=
  if field.1 ∈ t.pairListNames then
    match (Json.object ms).member? field.1 with
    | none => []
    | some (.array _) => (parts field.1).zipIdx.flatMap fun part =>
        placed [.name field.1, .index part.2] (details .keyValue part.1)
    | some _ => [⟨.notList, [.name field.1]⟩]
  else issues (t.checkField ms field)

structure PartByPart (body : ByteArray) : Prop where
  accepted : (∃ m, t.decode body = .ok m) ↔ ∀ field ∈ t.fieldKinds, t.ValidAlone ms parts field
  elements : ∀ m, t.decode body = .ok m → ∀ name ∈ t.pairListNames, ∃ kvs,
    (name, kvs) ∈ t.pairLists m ∧
      List.Forall₂ (fun part kv => decode .keyValue part = .ok kv) (parts name) kvs
  refused : ∀ e, t.decode body = .error e →
    e.issues = t.fieldKinds.flatMap (t.detailsAlone ms parts) ∧
      e.message = "Failed to decode " ++ t.name ++ ": " ++ e.issues.length.repr ++
        " validation error(s)"

end Statement

variable {t : MessageType} {ms : List (String × Json)} {name : String} {kind : FieldKind}

section Alone

variable {parts : String → List ByteArray} {body : ByteArray} {bodies : List ByteArray}
  {js : List Json}

theorem details_eq (t : MessageType) (body : ByteArray) :
    t.details body = issues (t.check body) := by
  rw [details, decode]
  cases t.check body <;> rfl

/-- A body that holds a pair alone is checked as the pair is inside a list. -/
theorem outcome_check_keyValue {j : Json} (h : Denotes body j) :
    outcome (check .keyValue body) = FieldKind.pair.check (Raw.ofJson j) := by
  rw [check_of_denotes _ h, ofJson, FieldKind.check]
  cases Raw.ofJson j <;> rfl

/-- An element is checked inside of a list as a body of its own is, at its index. -/
theorem map_check_pair (h : List.Forall₂ Denotes bodies js) (k : ℕ) :
    ((js.map Raw.ofJson).zipIdx k).map
        (fun r => Checked.inside (.index r.2) (FieldKind.pair.check r.1)) =
      (bodies.zipIdx k).map
        fun part => Checked.inside (.index part.2) (outcome (check .keyValue part.1)) := by
  induction h generalizing k with
  | nil => rfl
  | cons hj _ ih =>
    rw [List.map_cons, List.zipIdx_cons, List.zipIdx_cons, List.map_cons, List.map_cons, ih,
      outcome_check_keyValue hj]

def checkPairs (bodies : List ByteArray) : Checked Unit :=
  together (bodies.zipIdx.map
    fun part => Checked.inside (.index part.2) (outcome (check .keyValue part.1)))

/-- A list of pairs is checked as its elements are alone. -/
theorem check_list_pair (h : List.Forall₂ Denotes bodies js) :
    (FieldKind.list .pair).check (Raw.ofJson (.array js)) = checkPairs bodies := by
  rw [Raw.ofJson, ofJsonItems_eq, FieldKind.check, map_check_pair h, checkPairs]

theorem forall_mem_zipIdx {α : Type} {p : α → Prop} {xs : List α} :
    (∀ x ∈ xs.zipIdx, p x.1) ↔ ∀ x ∈ xs, p x := by
  rw [← List.forall_mem_map (f := Prod.fst), List.zipIdx_map_fst]

theorem checkPairs_eq_ok_iff :
    checkPairs bodies = .ok () ↔ ∀ part ∈ bodies, ∃ kv, decode .keyValue part = .ok kv := by
  simp only [checkPairs, together_eq_ok_iff, List.forall_mem_map, Checked.inside_eq_ok,
    outcome_eq_ok_iff, decode, Checked.mapError_eq_ok]
  exact forall_mem_zipIdx (p := fun part => ∃ kv, check .keyValue part = .ok kv)

/-- The issues of each element stand in their order, with the index in front of their
places. -/
theorem issues_checkPairs (name : String) (bodies : List ByteArray) :
    issues (Checked.inside (.name name) (checkPairs bodies)) =
      bodies.zipIdx.flatMap fun part =>
        placed [.name name, .index part.2] (details .keyValue part.1) := by
  simp only [checkPairs, issues_inside, issues_together, List.flatMap_map, List.map_flatMap,
    List.map_map, issues_outcome, details_eq, placed]
  rfl

theorem eq_pairs_of_mem {field : String × FieldKind} (hfield : field ∈ t.fieldKinds)
    (hname : field.1 ∈ t.pairListNames) : field = (field.1, .list .pair) :=
  List.inj_on_of_nodup_map t.nodup_fieldKinds hfield (mem_fieldKinds_of_pairListNames hname) rfl

/-- A list of pairs may be left out. -/
theorem not_required_of_pairListNames (t : MessageType) :
    ∀ name ∈ t.pairListNames, name ∉ t.requiredNames := by
  cases t <;> decide

theorem checkField_pairs (hname : name ∉ t.requiredNames) :
    t.checkField ms (name, .list .pair) =
      match (Json.object ms).member? name with
      | none => .ok ()
      | some j => Checked.inside (.name name) ((FieldKind.list .pair).check (Raw.ofJson j)) := by
  rw [checkField, if_neg hname, withDefault, lookup?_ofJsonMembers]
  cases (Json.object ms).member? name <;> rfl

theorem check_list_of_ne {j : Json} (h : ∀ js, j ≠ .array js) :
    (FieldKind.list kind).check (Raw.ofJson j) = fail .notList := by
  cases j with
  | array js => exact absurd rfl (h js)
  | _ => rfl

/-- A field is valid in an object just if it is valid by itself, and the same is
reported of it. -/
theorem checkField_alone {field : String × FieldKind} (hparts : t.Apart ms parts)
    (hfield : field ∈ t.fieldKinds) :
    (t.checkField ms field = .ok () ↔ t.ValidAlone ms parts field) ∧
      issues (t.checkField ms field) = t.detailsAlone ms parts field := by
  unfold ValidAlone detailsAlone
  split_ifs with hname
  · obtain ⟨name, kind⟩ := field
    obtain rfl : kind = .list .pair := congrArg Prod.snd (eq_pairs_of_mem hfield hname)
    have hbodies := hparts name hname
    rw [checkField_pairs (t.not_required_of_pairListNames name hname)]
    unfold Json.itemsOf at hbodies
    cases hmember : (Json.object ms).member? name with
    | none =>
      simp only [hmember, List.forall₂_nil_right_iff] at hbodies
      simp [hbodies]
    | some j =>
      by_cases harray : ∃ js, j = .array js
      · obtain ⟨js, rfl⟩ := harray
        simp only [hmember] at hbodies
        simp only [check_list_pair hbodies, Checked.inside_eq_ok, checkPairs_eq_ok_iff,
          issues_checkPairs]
        simp
      · have hne := not_exists.mp harray
        dsimp only
        rw [check_list_of_ne hne]
        refine ⟨iff_of_false ?_ fun h => harray (h.1 j rfl), ?_⟩
        · rw [Checked.inside_eq_ok]
          exact fail_ne_ok
        · cases j with
          | array js => exact absurd rfl (hne js)
          | _ => rfl
  · exact ⟨Iff.rfl, rfl⟩

end Alone

theorem mem_of_member? {j : Json} (h : (Json.object ms).member? name = some j) :
    (name, j) ∈ ms := by
  obtain ⟨m, hm, rfl⟩ := Option.map_eq_some_iff.mp h
  have hname : m.1 = name := by simpa using List.find?_some hm
  subst hname
  exact List.mem_reverse.mp (List.mem_of_find?_eq_some hm)

/-- The elements of the lists of pairs in a body can be sent one by one. -/
theorem exists_apart {body : ByteArray} (hbody : Denotes body (.object ms)) (t : MessageType) :
    ∃ parts, t.Apart ms parts := by
  have hparts : ∀ name, ∃ bodies, List.Forall₂ Denotes bodies ((Json.object ms).itemsOf name) := by
    intro name
    have helements : ∀ j ∈ (Json.object ms).itemsOf name, ∃ part, Denotes part j := by
      intro j hj
      unfold Json.itemsOf at hj
      split at hj
      · next js hmember => exact exists_denotes_of_element hbody (mem_of_member? hmember) hj
      · cases hj
    choose! part hpart using helements
    exact ⟨_, List.forall₂_map_left_iff.mpr (List.forall₂_same.mpr hpart)⟩
  choose parts hparts using hparts
  exact ⟨parts, fun name _ => hparts name⟩

/-- A body that denotes a pair is decoded as the pair is read. -/
theorem decode_keyValue_eq_ok_iff {body : ByteArray} {j : Json} {kv : KeyValue}
    (h : Denotes body j) :
    decode .keyValue body = .ok kv ↔ KeyValue.read .wire (Raw.ofJson j) = .ok kv := by
  rw [decode_of_denotes _ h, Checked.mapError_eq_ok, ofJson]
  cases Raw.ofJson j <;> rfl

/-- What a list of pairs has been read as, its elements are decoded to alone. -/
theorem decode_of_pairsRead {bodies : List ByteArray} {js : List Json} {kvs : List KeyValue}
    (hbodies : List.Forall₂ Denotes bodies js) (h : PairsRead js kvs) :
    List.Forall₂ (fun part kv => decode .keyValue part = .ok kv) bodies kvs := by
  induction hbodies generalizing kvs with
  | nil =>
    cases h
    exact .nil
  | cons hj _ ih =>
    cases h with
    | cons hread h => exact .cons ((decode_keyValue_eq_ok_iff hj).mpr hread) (ih h)

theorem issues_of_decode_eq_error {body : ByteArray} {j : Json} {e : DecodeError}
    (hbody : Denotes body j) (h : t.decode body = .error e) :
    e.issues = issues (t.ofJson j) ∧ e.expected = t := by
  rw [decode_of_denotes t hbody] at h
  cases hread : t.ofJson j with
  | ok m => simp [hread, Except.mapError] at h
  | error is =>
    rw [hread] at h
    obtain rfl := Except.error.inj h
    exact ⟨rfl, rfl⟩

/-- A body is decoded just if each of its fields passes its check. -/
theorem exists_decode_iff {body : ByteArray} (hbody : Denotes body (.object ms)) :
    (∃ m, t.decode body = .ok m) ↔ ∀ field ∈ t.fieldKinds, t.checkField ms field = .ok () := by
  simp only [decode_of_denotes t hbody, Checked.mapError_eq_ok]
  rw [← outcome_eq_ok_iff, inOrder_ofJson, together_eq_ok_iff, List.forall_mem_map]

/-- Any object is decoded part by part. -/
theorem partByPart {body : ByteArray} {parts : String → List ByteArray}
    (hbody : Denotes body (.object ms)) (hparts : t.Apart ms parts) :
    t.PartByPart ms parts body where
  accepted := by
    rw [exists_decode_iff hbody]
    exact forall₂_congr fun field hfield => (checkField_alone hparts hfield).1
  elements := by
    intro m hm name hname
    rw [decode_of_denotes t hbody, Checked.mapError_eq_ok] at hm
    obtain ⟨kvs, hkvs, hread⟩ := pairsRead_pairLists hname hm
    exact ⟨kvs, hkvs, decode_of_pairsRead (hparts name hname) hread⟩
  refused := by
    intro e he
    obtain ⟨hissues, rfl⟩ := issues_of_decode_eq_error hbody he
    refine ⟨?_, rfl⟩
    rw [hissues, ← issues_outcome, inOrder_ofJson, issues_together, List.flatMap_map]
    exact List.flatMap_congr fun field hfield => (checkField_alone hparts hfield).2

/-- The elements of the lists in a body can be decoded one by one. The body is accepted
just if each of its fields is valid by itself, every element of a list being decodable
alone, and then the lists hold what their elements are decoded to alone, index by index.
Otherwise all that is reported of the fields by themselves is reported of the body, in
their order. -/
theorem decode_part_by_part {body : ByteArray} (hbody : Denotes body (.object ms)) :
    (∃ parts, t.Apart ms parts) ∧ ∀ parts, t.Apart ms parts → t.PartByPart ms parts body :=
  ⟨exists_apart hbody t, fun _ hparts => partByPart hbody hparts⟩

set_option maxRecDepth 2000 in
/-- A write whose list of items has a pair, an object without a key, a number and the
same pair again, and with other fields that are wrong, too. -/
theorem decode_part_by_part_of_write :
    let pair := "\x7b\"key\":\"a\"\x7d"
    let body := "\x7b\"store_id\":\"\",\"transaction_items\":[" ++ pair ++
      ",\x7b\"value\":0\x7d,5," ++ pair ++ "],\"delete_items\":0\x7d"
    let a : Json := .object [("key", .string "a")]
    let items : List Json := [a, .object [("value", .integer 0)], .integer 5, a]
    let ms := [("store_id", .string ""), ("transaction_items", .array items),
      ("delete_items", .integer 0)]
    let parts (name : String) : List ByteArray := if name = "transaction_items" then
      [pair.toUTF8, "\x7b\"value\":0\x7d".toUTF8, "5".toUTF8, pair.toUTF8] else []
    PartByPart .putObjectRequest ms parts body.toUTF8 ∧
      decode .putObjectRequest body.toUTF8 = .error ⟨.putObjectRequest,
        [⟨.textTooShort, [.name "store_id"]⟩,
          ⟨.missing, [.name "transaction_items", .index 1, .name "key"]⟩,
          ⟨.notBytes, [.name "transaction_items", .index 1, .name "value"]⟩,
          ⟨.notRecord, [.name "transaction_items", .index 2]⟩,
          ⟨.notList, [.name "delete_items"]⟩]⟩ := by
  intro pair body a items ms parts
  have hbody : Denotes body.toUTF8 (.object ms) := denotes_toUTF8.mpr (by cbv)
  have hpair : Denotes pair.toUTF8 a := denotes_toUTF8.mpr (by cbv)
  have hvalue : Denotes "\x7b\"value\":0\x7d".toUTF8 (.object [("value", .integer 0)]) :=
    denotes_toUTF8.mpr (by cbv)
  have hnumber : Denotes "5".toUTF8 (.integer 5) := denotes_toUTF8.mpr (by cbv)
  have hparts : Apart .putObjectRequest ms parts := by
    intro name hname
    simp only [pairListNames, List.mem_cons, List.not_mem_nil, or_false] at hname
    rcases hname with rfl | rfl
    · exact .cons hpair (.cons hvalue (.cons hnumber (.cons hpair .nil)))
    · exact .nil
  refine ⟨(decode_part_by_part hbody).2 parts hparts, ?_⟩
  rw [decode_of_denotes _ hbody]
  decide +kernel

end MessageType

end VersionedStore
