import VersionedStore.Proofs.Base64.Meaning
import VersionedStore.Proofs.Message.Fields

/-!
What becomes of the payloads that a body gives as texts. A text that spells data is
read as the bytes that the data stands for, wherever in a message it stands; of any
other text one problem is reported at its place, and the message is not built.
-/

namespace VersionedStore

open VersionedStore.Field

namespace MessageType

def pairLists : (t : MessageType) → t.Body → List (String × List KeyValue)
  | .putObjectRequest, m =>
    [("transaction_items", m.transactionItems), ("delete_items", m.deleteItems)]
  | .listKeyVersionsResponse, m => [("key_versions", m.keyVersions)]
  | .keyValue, _ | .getObjectRequest, _ | .getObjectResponse, _ | .putObjectResponse, _
  | .deleteObjectRequest, _ | .deleteObjectResponse, _ | .listKeyVersionsRequest, _
  | .errorResponse, _ => []

def pairListNames : MessageType → List String
  | .putObjectRequest => ["transaction_items", "delete_items"]
  | .listKeyVersionsResponse => ["key_versions"]
  | _ => []

/-- A JSON value gives a text for a payload at a place of a message. -/
inductive GivesPayload : MessageType → Json → List Step → String → Prop where
  | own {j : Json} {s : String} (hs : j.member? "value" = some (.string s)) :
    GivesPayload .keyValue j [.name "value"] s
  | value {j k : Json} {s : String} (hk : j.member? "value" = some k)
    (hs : k.member? "value" = some (.string s)) :
    GivesPayload .getObjectResponse j [.name "value", .name "value"] s
  | item {t : MessageType} {name : String} (hname : name ∈ t.pairListNames) {j k : Json}
    {items : List Json} {i : ℕ} {s : String} (hitems : j.member? name = some (.array items))
    (hk : items[i]? = some k) (hs : k.member? "value" = some (.string s)) :
    GivesPayload t j [.name name, .index i, .name "value"] s

inductive HasPayload : (t : MessageType) → t.Body → List Step → ByteArray → Prop where
  | own (kv : KeyValue) : HasPayload .keyValue kv [.name "value"] kv.value
  | value (kv : KeyValue) :
    HasPayload .getObjectResponse ⟨some kv⟩ [.name "value", .name "value"] kv.value
  | item {t : MessageType} {m : t.Body} {name : String} {kvs : List KeyValue} {i : ℕ}
    {kv : KeyValue} (hname : (name, kvs) ∈ t.pairLists m) (hkv : kvs[i]? = some kv) :
    HasPayload t m [.name name, .index i, .name "value"] kv.value

end MessageType

namespace Field

variable {α : Type} {read : Raw → Checked α} {name : String} {ms : List (String × Json)} {k : Json}

/-- What a field has been read as, its member has been read as if there is one. -/
theorem read_of_withDefault {default x : α}
    (h : withDefault (Raw.ofJsonMembers ms) name default read = .ok x)
    (hk : (Json.object ms).member? name = some k) : read (Raw.ofJson k) = .ok x := by
  rcases member?_of_withDefault h with ⟨hnone, -⟩ | ⟨k', hk', hread⟩
  · rw [hk] at hnone
    cases hnone
  · obtain rfl := Option.some.inj (hk.symm.trans hk')
    exact hread

theorem exists_read_of_withDefault {v : Option α}
    (h : withDefault (Raw.ofJsonMembers ms) name none (optional read) = .ok v)
    (hk : (Json.object ms).member? name = some k) (hne : Raw.ofJson k ≠ .none) :
    ∃ x, v = some x ∧ read (Raw.ofJson k) = .ok x := by
  have hread := read_of_withDefault h hk
  cases v with
  | none => exact absurd (eq_none_of_optional hread) hne
  | some x => exact ⟨x, rfl, of_optional_eq_some hread⟩

/-- An element that a body gives in a list of pairs has been read as the pair at its
index. -/
theorem getElem?_of_pairsRead {js : List Json} {kvs : List KeyValue} {i : ℕ}
    (h : PairsRead js kvs) (hk : js[i]? = some k) :
    ∃ kv, kvs[i]? = some kv ∧ KeyValue.read .wire (Raw.ofJson k) = .ok kv := by
  obtain ⟨hi, rfl⟩ := List.getElem?_eq_some_iff.mp hk
  have hi' : i < kvs.length := h.length_eq ▸ hi
  exact ⟨kvs[i], List.getElem?_eq_getElem hi', h.get hi hi'⟩

end Field

namespace KeyValue

variable {j : Json} {s : String} {place : List Step}

theorem ofJson_ne_none_of_member? {name : String} {k : Json} (h : j.member? name = some k) :
    Raw.ofJson j ≠ .none := by
  cases j with
  | object => simp [Raw.ofJson]
  | _ => cases h

/-- The payload of a pair is what its text stands for. -/
theorem payload_of_read {kv : KeyValue} (h : read .wire (Raw.ofJson j) = .ok kv)
    (hs : j.member? "value" = some (.string s)) : payload .wire (.text s) = .ok kv.value := by
  obtain ⟨rs, hrs, hread⟩ := record_eq_ok.mp h
  cases j with
  | object ms =>
    obtain rfl := Raw.record.inj hrs
    simp only [Checked.also_eq_ok] at hread
    obtain ⟨_, value, ⟨_, _, ⟨_, _, ⟨⟩, -, rfl⟩, -, rfl⟩, hvalue, rfl⟩ := hread
    exact read_of_withDefault hvalue hs
  | _ => cases hs

end KeyValue

namespace MessageType

variable {t : MessageType} {j : Json} {s : String} {place : List Step}

theorem mem_fieldKinds_of_pairListNames {name : String} (h : name ∈ t.pairListNames) :
    (name, .list .pair) ∈ t.fieldKinds := by
  cases t with
  | putObjectRequest =>
    simp only [pairListNames, List.mem_cons, List.not_mem_nil, or_false] at h
    rcases h with rfl | rfl <;> simp [fieldKinds]
  | listKeyVersionsResponse =>
    obtain rfl := List.mem_singleton.mp h
    simp [fieldKinds]
  | _ => cases h

section Places

variable {k : Json} {name : String} {items : List Json} {i : ℕ}

/-- Of a place in the pair of a response, the pair reports. -/
theorem problemsAt_pair (hk : j.member? "value" = some k) (hne : Raw.ofJson k ≠ .none) :
    problemsAt (.name "value" :: place) (issues (ofJson .getObjectResponse j)) =
      problemsAt place (issues (ofJson .keyValue k)) := by
  have hfield : ("value", .optional .pair) ∈ fieldKinds .getObjectResponse := by
    simp [fieldKinds]
  rw [problemsAt_field hfield hk, problemsAt_check_optional hne, issues_check_pair]

/-- Of a place in a pair of a list, the pair reports. -/
theorem problemsAt_item (hname : name ∈ t.pairListNames)
    (hitems : j.member? name = some (.array items)) (hk : items[i]? = some k) :
    problemsAt (.name name :: .index i :: place) (issues (t.ofJson j)) =
      problemsAt place (issues (ofJson .keyValue k)) := by
  rw [problemsAt_field (mem_fieldKinds_of_pairListNames hname) hitems, problemsAt_check_list hk,
    issues_check_pair]

/-- All that is reported of the value of a pair is what is wrong with its text. -/
theorem problemsAt_payload_of_pair (hs : j.member? "value" = some (.string s)) :
    problemsAt [.name "value"] (issues (ofJson .keyValue j)) =
      problemsAt [] (issues (payload .wire (.text s))) := by
  have hfield : ("value", .payload) ∈ fieldKinds .keyValue := by simp [fieldKinds]
  rw [problemsAt_field hfield hs, FieldKind.check, issues_outcome, Raw.ofJson]

/-- Of the place of a payload a message reports what is wrong with the payload. -/
theorem problemsAt_payload (h : t.GivesPayload j place s) :
    problemsAt place (issues (t.ofJson j)) = problemsAt [] (issues (payload .wire (.text s))) := by
  cases h with
  | own hs => exact problemsAt_payload_of_pair hs
  | value hk hs =>
    rw [problemsAt_pair hk (KeyValue.ofJson_ne_none_of_member? hs), problemsAt_payload_of_pair hs]
  | item hname hitems hk hs =>
    rw [problemsAt_item hname hitems hk, problemsAt_payload_of_pair hs]

end Places

/-- The pairs in a list of a message are read one by one of the body. -/
theorem pairsRead_pairLists {ms : List (String × Json)} {m : t.Body} {name : String}
    (hname : name ∈ t.pairListNames) (h : readMembers .wire (Raw.ofJsonMembers ms) t = .ok m) :
    ∃ kvs, (name, kvs) ∈ t.pairLists m ∧ PairsRead ((Json.object ms).itemsOf name) kvs := by
  cases t with
  | putObjectRequest =>
    simp only [readMembers, Checked.also_eq_ok] at h
    obtain ⟨_, _, ⟨_, deletes, ⟨_, items, ⟨_, _, ⟨⟩, -, rfl⟩, hitems, rfl⟩, hdeletes, rfl⟩, -,
      rfl⟩ := h
    simp only [pairListNames, List.mem_cons, List.not_mem_nil, or_false] at hname
    rcases hname with rfl | rfl
    · exact ⟨items, by simp [pairLists], pairsRead_of_withDefault hitems⟩
    · exact ⟨deletes, by simp [pairLists], pairsRead_of_withDefault hdeletes⟩
  | listKeyVersionsResponse =>
    simp only [readMembers, Checked.also_eq_ok] at h
    obtain ⟨_, _, ⟨_, _, ⟨_, kvs, ⟨⟩, hkvs, rfl⟩, -, rfl⟩, -, rfl⟩ := h
    obtain rfl := List.mem_singleton.mp hname
    exact ⟨kvs, by simp [pairLists], pairsRead_of_withDefault hkvs⟩
  | _ => cases hname

section Pairs

variable {m : t.Body} {k : Json}

/-- A response that has been built has the pair that was given for it. -/
theorem exists_pair_of_member {m : GetObjectResponse}
    (hread : ofJson .getObjectResponse j = .ok m) (hk : j.member? "value" = some k)
    (hne : Raw.ofJson k ≠ .none) :
    ∃ kv, m = ⟨some kv⟩ ∧ KeyValue.read .wire (Raw.ofJson k) = .ok kv := by
  obtain ⟨ms, rfl⟩ := exists_members_of_member? hk
  change readMembers .wire (Raw.ofJsonMembers ms) .getObjectResponse = .ok m at hread
  simp only [readMembers, Checked.also_eq_ok] at hread
  obtain ⟨_, value, ⟨⟩, hvalue, rfl⟩ := hread
  obtain ⟨kv, rfl, hkv⟩ := exists_read_of_withDefault hvalue hk hne
  exact ⟨kv, rfl, hkv⟩

/-- A message that has been built has the pairs that were given in its lists. -/
theorem exists_pair_of_item {name : String} {items : List Json} {i : ℕ}
    (hread : t.ofJson j = .ok m) (hname : name ∈ t.pairListNames)
    (hitems : j.member? name = some (.array items)) (hk : items[i]? = some k) :
    ∃ kvs kv, (name, kvs) ∈ t.pairLists m ∧ kvs[i]? = some kv ∧
      KeyValue.read .wire (Raw.ofJson k) = .ok kv := by
  obtain ⟨ms, rfl⟩ := exists_members_of_member? hitems
  obtain ⟨kvs, hkvs, hpairs⟩ := pairsRead_pairLists hname hread
  rw [Json.itemsOf, hitems] at hpairs
  obtain ⟨kv, hkv, hkvread⟩ := getElem?_of_pairsRead hpairs hk
  exact ⟨kvs, kv, hkvs, hkv, hkvread⟩

end Pairs

/-- A message has the payloads that were given for it. -/
theorem hasPayload_of_ofJson {m : t.Body} (hread : t.ofJson j = .ok m)
    (h : t.GivesPayload j place s) :
    ∃ b, payload .wire (.text s) = .ok b ∧ t.HasPayload m place b := by
  cases h with
  | own hs =>
    obtain ⟨ms, rfl⟩ := exists_members_of_member? hs
    exact ⟨_, KeyValue.payload_of_read (j := .object ms) hread hs, .own m⟩
  | value hk hs =>
    obtain ⟨kv, rfl, hkv⟩ :=
      exists_pair_of_member hread hk (KeyValue.ofJson_ne_none_of_member? hs)
    exact ⟨_, KeyValue.payload_of_read hkv hs, .value kv⟩
  | item hname hitems hk hs =>
    obtain ⟨_, _, hkvs, hkv, hread⟩ := exists_pair_of_item hread hname hitems hk
    exact ⟨_, KeyValue.payload_of_read hread hs, .item hkvs hkv⟩

/-- A text that a body gives for a payload is accepted just if it spells data, and the
payload is what this data stands for, in the message too if that is built. For any
other text one problem is reported at its place, and the message is not built. The
text that a payload is written as is read as this payload. -/
theorem payload_of_body {body : ByteArray} (hbody : Json.Grammar.Denotes body j)
    (h : t.GivesPayload j place s) :
    (∀ data, Base64.Spells s.toList data →
      ∃ b, payload .wire (.text s) = .ok b ∧ Base64.Holds data b.data.toList ∧
        (∀ e, t.decode body = .error e → problemsAt place e.issues = []) ∧
        ∀ m, t.decode body = .ok m → t.HasPayload m place b) ∧
    ((¬∃ data, Base64.Spells s.toList data) →
      (∀ b, payload .wire (.text s) ≠ .ok b) ∧
      ∃ e p, t.decode body = .error e ∧ problemsAt place e.issues = [p] ∧
        p.code = "value_error") ∧
    ∀ b, Json.payload b = .string s → payload .wire (.text s) = .ok b := by
  have hproblems := problemsAt_payload h
  rw [decode_of_denotes t hbody]
  refine ⟨fun data hdata => ?_, fun hno => ?_, fun b hb => ?_⟩
  · obtain ⟨bytes, hdecode, hholds⟩ := Base64.exists_decode_of_spells hdata
    have hpayload : payload .wire (.text s) = .ok ⟨⟨bytes⟩⟩ := by
      simp only [payload, hdecode]
    refine ⟨_, hpayload, hholds, fun e he => ?_, fun m hm => ?_⟩
    · rw [hpayload, issues_ok, problemsAt_nil] at hproblems
      cases hread : t.ofJson j with
      | ok m => simp [hread, Except.mapError] at he
      | error issues =>
        rw [hread] at he hproblems
        obtain rfl := Except.error.inj he
        exact hproblems
    · obtain ⟨b, hb, hhas⟩ := hasPayload_of_ofJson (Checked.mapError_eq_ok.mp hm) h
      obtain rfl := Except.ok.inj (hb.symm.trans hpayload)
      exact hhas
  · obtain ⟨fault, hfault⟩ := Base64.exists_fault_of_not_spells hno
    have hpayload : payload .wire (.text s) = fail (.payload fault) := by
      simp only [payload, hfault]
    rw [hpayload] at hproblems ⊢
    refine ⟨fun b => fail_ne_ok, ?_⟩
    cases hread : t.ofJson j with
    | ok m =>
      rw [hread] at hproblems
      cases hproblems
    | error issues =>
      rw [hread] at hproblems
      exact ⟨_, _, rfl, hproblems, rfl⟩
  · have hwire := payload_wire b
    rwa [hb] at hwire

set_option maxRecDepth 2000 in
/-- A page with a payload that has more padding than it needs, and with one that lacks
padding: only of the other is something reported, and a pair with the first is read. -/
theorem payload_of_body_padding :
    let pair := "\x7b\"key\":\"\",\"value\":\"AQID=\"\x7d"
    let body := "\x7b\"key_versions\":[" ++ pair ++ ",\x7b\"key\":\"\",\"value\":\"AQI\"\x7d]\x7d"
    (∃ e p, decode .listKeyVersionsResponse body.toUTF8 = .error e ∧
      problemsAt [.name "key_versions", .index 0, .name "value"] e.issues = [] ∧
      problemsAt [.name "key_versions", .index 1, .name "value"] e.issues = [p] ∧
      p.code = "value_error") ∧
    HasPayload .keyValue ⟨"", none, ⟨#[1, 2, 3]⟩⟩ [.name "value"] ⟨#[1, 2, 3]⟩ ∧
    decode .keyValue pair.toUTF8 = .ok ⟨"", none, ⟨#[1, 2, 3]⟩⟩ := by
  intro pair body
  let padded : Json := .object [("key", .string ""), ("value", .string "AQID=")]
  let unpadded : Json := .object [("key", .string ""), ("value", .string "AQI")]
  let page : Json := .object [("key_versions", .array [padded, unpadded])]
  have hpair : Json.Grammar.Denotes pair.toUTF8 padded :=
    Json.Grammar.denotes_toUTF8.mpr (by cbv)
  have hbody : Json.Grammar.Denotes body.toUTF8 page :=
    Json.Grammar.denotes_toUTF8.mpr (by cbv)
  have hbytes : Base64.decode "AQID=".toList = .ok [1, 2, 3] := by decide +kernel
  obtain ⟨_, hspells, -⟩ := Base64.decode_eq_ok_iff.mp hbytes
  have hno : ¬∃ data, Base64.Spells "AQI".toList data := by
    rintro ⟨data, hdata⟩
    obtain ⟨bytes, hbytes, -⟩ := Base64.exists_decode_of_spells hdata
    have herror : Base64.decode "AQI".toList = .error .missingPadding := by decide +kernel
    rw [herror] at hbytes
    cases hbytes
  have hitems : page.member? "key_versions" = some (.array [padded, unpadded]) := rfl
  have hfirst : GivesPayload .listKeyVersionsResponse page
      [.name "key_versions", .index 0, .name "value"] "AQID=" :=
    .item (by decide) (k := padded) hitems rfl rfl
  have hsecond : GivesPayload .listKeyVersionsResponse page
      [.name "key_versions", .index 1, .name "value"] "AQI" :=
    .item (by decide) (k := unpadded) hitems rfl rfl
  have hown : GivesPayload .keyValue padded [.name "value"] "AQID=" := .own rfl
  have hdecode : decode .keyValue pair.toUTF8 = .ok ⟨"", none, ⟨#[1, 2, 3]⟩⟩ := by
    rw [decode_of_denotes _ hpair]
    decide +kernel
  obtain ⟨-, hrefused, -⟩ := payload_of_body hbody hsecond
  obtain ⟨-, e, p, he, hproblem, hcode⟩ := hrefused hno
  obtain ⟨haccepted, -⟩ := payload_of_body hbody hfirst
  obtain ⟨-, -, -, hnone, -⟩ := haccepted _ hspells
  obtain ⟨haccepted', -⟩ := payload_of_body hpair hown
  obtain ⟨b, hb, -, -, hhas⟩ := haccepted' _ hspells
  have hpayload : payload .wire (.text "AQID=") = .ok ⟨⟨[1, 2, 3]⟩⟩ := by
    simp only [payload, hbytes]
  obtain rfl := Except.ok.inj (hb.symm.trans hpayload)
  exact ⟨⟨e, p, he, hnone e he, hproblem, hcode⟩, hhas _ hdecode, hdecode⟩

end MessageType

end VersionedStore
