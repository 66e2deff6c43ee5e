import VersionedStore.Proofs.Base64
import VersionedStore.Proofs.Json.RoundTrip
import VersionedStore.Proofs.Message.WellFormed
import VersionedStore.Message.Codec

/-!
A message that was built and encoded is decoded as the same message, if its
integers are not too long for the reader of JSON. A message with a longer
integer has an encoding as well, but one that is refused as a text; in no case
is another message decoded.
-/

namespace VersionedStore

open VersionedStore.Field

namespace Field

variable {α : Type}

theorem optional_ofOption {read : Raw → Checked α} {write : α → Json} {o : Option α}
    (hread : ∀ x, o = some x → read (Raw.ofJson (write x)) = .ok x)
    (hsome : ∀ x, Raw.ofJson (write x) ≠ .none) :
    optional read (Raw.ofJson (Json.ofOption write o)) = .ok o := by
  cases o with
  | none => rfl
  | some x => exact optional_eq_ok_some (hread x rfl) (hsome x)

theorem list_array {read : Raw → Checked α} {write : α → Json} (xs : List α)
    (hread : ∀ x, read (Raw.ofJson (write x)) = .ok x) :
    list read (.list (Raw.ofJsonItems (xs.map write))) = .ok xs := by
  rw [ofJsonItems_eq, List.map_map]
  exact list_map xs hread

/-- A payload survives its writing in base64. -/
theorem payload_wire (b : ByteArray) : payload .wire (Raw.ofJson (Json.payload b)) = .ok b := by
  rw [Json.payload, Raw.ofJson, payload]
  simp only [String.toList_ofList, Base64.decode_encode]

end Field

namespace KeyValue

/-- A pair is read back from its own JSON value. -/
theorem read_toJson (kv : KeyValue) : read .wire (Raw.ofJson kv.toJson) = .ok kv := by
  have hversion : optional integer (Raw.ofJson (Json.ofOption .integer kv.version)) =
      .ok kv.version := optional_ofOption (fun _ _ => rfl) (fun _ => by simp [Raw.ofJson])
  have hvalue := payload_wire kv.value
  simp [toJson, Raw.ofJson, Raw.ofJsonMembers, read, record, required, withDefault, lookup?,
    hversion, hvalue, text, Checked.inside, Checked.also]

def integers (kv : KeyValue) : List ℤ := kv.version.toList

/-- The only numbers in the JSON value of a pair are its integers. -/
theorem wholes_toJson (kv : KeyValue) : kv.toJson.wholes = kv.integers.map Int.natAbs := by
  obtain ⟨key, version, value⟩ := kv
  cases version <;> rfl

theorem depth_toJson (kv : KeyValue) : kv.toJson.depth = 1 := by
  obtain ⟨key, version, value⟩ := kv
  cases version <;> rfl

end KeyValue

namespace MessageType

theorem nonEmptyText_text {s : String} (hs : s ≠ "") : nonEmptyText (.text s) = .ok s := by
  simp [nonEmptyText, text, hs]

/-- What a message is written as is read as the same message. -/
theorem ofJson_toJson (t : MessageType) (m : t.Body) (hm : t.WellFormed m) :
    t.ofJson (t.toJson m) = .ok m := by
  have htext : ∀ o : Option String, optional text (Raw.ofJson (Json.ofOption .string o)) = .ok o :=
    fun o => optional_ofOption (fun _ _ => rfl) (fun _ => by simp [Raw.ofJson])
  have hinteger : ∀ o : Option ℤ,
      optional integer (Raw.ofJson (Json.ofOption .integer o)) = .ok o :=
    fun o => optional_ofOption (fun _ _ => rfl) (fun _ => by simp [Raw.ofJson])
  have hlist : ∀ kvs : List KeyValue, list (KeyValue.read .wire)
      (.list (Raw.ofJsonItems (kvs.map KeyValue.toJson))) = .ok kvs :=
    fun kvs => list_array kvs KeyValue.read_toJson
  cases t with
  | keyValue => exact KeyValue.read_toJson m
  | getObjectRequest =>
    have hstore := nonEmptyText_text (s := m.storeId) hm
    simp [ofJson, toJson, Raw.ofJson, Raw.ofJsonMembers, read, readMembers, record, required,
      lookup?, hstore, text, Checked.inside, Checked.also]
  | getObjectResponse =>
    have hvalue : optional (KeyValue.read .wire)
        (Raw.ofJson (Json.ofOption KeyValue.toJson m.value)) = .ok m.value :=
      optional_ofOption (fun kv _ => KeyValue.read_toJson kv) (fun kv h => by cases h)
    simp [ofJson, toJson, Raw.ofJson, Raw.ofJsonMembers, read, readMembers, record, withDefault,
      lookup?, hvalue, Checked.inside, Checked.also]
  | putObjectRequest =>
    have hstore := nonEmptyText_text (s := m.storeId) hm
    simp [ofJson, toJson, Raw.ofJson, Raw.ofJsonMembers, read, readMembers, record, required,
      withDefault, lookup?, hstore, hlist, hinteger, Checked.inside, Checked.also]
  | putObjectResponse => rfl
  | deleteObjectRequest =>
    have hstore := nonEmptyText_text (s := m.storeId) hm
    simp [ofJson, toJson, Raw.ofJson, Raw.ofJsonMembers, read, readMembers, record, required,
      withDefault, lookup?, hstore, hinteger, text, Checked.inside, Checked.also]
  | deleteObjectResponse => rfl
  | listKeyVersionsRequest =>
    have hstore := nonEmptyText_text (s := m.storeId) hm.1
    have hsize : optional (integerAbove 0) (Raw.ofJson (Json.ofOption .integer m.pageSize)) =
        .ok m.pageSize :=
      optional_ofOption (fun n hn => by simp [Raw.ofJson, integerAbove, integer, hm.2 n hn])
        (fun _ => by simp [Raw.ofJson])
    simp [ofJson, toJson, Raw.ofJson, Raw.ofJsonMembers, read, readMembers, record, required,
      withDefault, lookup?, hstore, htext, hsize, Checked.inside, Checked.also]
  | listKeyVersionsResponse =>
    simp [ofJson, toJson, Raw.ofJson, Raw.ofJsonMembers, read, readMembers, record,
      withDefault, lookup?, hlist, htext, hinteger, Checked.inside, Checked.also]
  | errorResponse =>
    have hcode : ErrorCode.read (.integer m.errorCode.toInt) = .ok m.errorCode := by
      cases m.errorCode <;> rfl
    simp [ofJson, toJson, Raw.ofJson, Raw.ofJsonMembers, read, readMembers, record,
      withDefault, lookup?, hcode, text, Checked.inside, Checked.also]

def integers : (t : MessageType) → t.Body → List ℤ
  | .keyValue, m => m.integers
  | .getObjectRequest, _ => []
  | .getObjectResponse, m => m.value.toList.flatMap KeyValue.integers
  | .putObjectRequest, m =>
    m.transactionItems.flatMap KeyValue.integers ++ m.deleteItems.flatMap KeyValue.integers ++
      m.globalVersion.toList
  | .putObjectResponse, _ => []
  | .deleteObjectRequest, m => m.version.toList
  | .deleteObjectResponse, _ => []
  | .listKeyVersionsRequest, m => m.pageSize.toList
  | .listKeyVersionsResponse, m =>
    m.keyVersions.flatMap KeyValue.integers ++ m.globalVersion.toList
  | .errorResponse, m => [m.errorCode.toInt]

theorem wholes_ofOption_integer (o : Option ℤ) :
    (Json.ofOption .integer o).wholes = o.toList.map Int.natAbs := by
  cases o <;> rfl

theorem wholes_ofOption_string (o : Option String) : (Json.ofOption .string o).wholes = [] := by
  cases o <;> rfl

theorem wholesItems_keyValues (kvs : List KeyValue) :
    Json.wholesItems (kvs.map KeyValue.toJson) =
      (kvs.flatMap KeyValue.integers).map Int.natAbs := by
  simp only [Json.wholesItems_eq, List.flatMap_map, List.map_flatMap, KeyValue.wholes_toJson]

/-- The numbers in the text of a message are its integers. -/
theorem wholes_toJson (t : MessageType) (m : t.Body) :
    (t.toJson m).wholes = (t.integers m).map Int.natAbs := by
  cases t with
  | keyValue => exact KeyValue.wholes_toJson m
  | getObjectResponse =>
    obtain ⟨value⟩ := m
    cases value <;>
      simp [toJson, integers, Json.ofOption, Json.wholes, Json.wholesMembers,
        KeyValue.wholes_toJson]
  | _ =>
    simp [toJson, integers, Json.wholes, Json.wholesMembers, wholes_ofOption_integer,
      wholes_ofOption_string, wholesItems_keyValues]

theorem depth_ofOption_integer (o : Option ℤ) : (Json.ofOption .integer o).depth = 0 := by
  cases o <;> rfl

theorem depth_ofOption_string (o : Option String) : (Json.ofOption .string o).depth = 0 := by
  cases o <;> rfl

theorem depthItems_keyValues (kvs : List KeyValue) :
    Json.depthItems (kvs.map KeyValue.toJson) ≤ 2 := by
  induction kvs with
  | nil => exact Nat.zero_le 2
  | cons kv kvs ih =>
    rw [List.map_cons, Json.depthItems, KeyValue.depth_toJson]
    exact Nat.max_le.mpr ⟨Nat.le_refl 2, ih⟩

/-- Messages nest three containers at most, far below the limit of the reader. -/
theorem depth_toJson (t : MessageType) (m : t.Body) : (t.toJson m).depth ≤ Json.maxDepth := by
  have hlimit : 3 ≤ Json.maxDepth := by decide
  refine Nat.le_trans ?_ hlimit
  cases t with
  | keyValue => exact Nat.le_trans (Nat.le_of_eq (KeyValue.depth_toJson m)) (by decide)
  | getObjectResponse =>
    obtain ⟨value⟩ := m
    cases value <;>
      simp [toJson, Json.ofOption, Json.depth, Json.depthMembers, KeyValue.depth_toJson]
  | putObjectRequest =>
    have hitems := depthItems_keyValues m.transactionItems
    have hdeletes := depthItems_keyValues m.deleteItems
    simp only [toJson, Json.depth, Json.depthMembers, depth_ofOption_integer]
    omega
  | listKeyVersionsResponse =>
    have hkvs := depthItems_keyValues m.keyVersions
    simp only [toJson, Json.depth, Json.depthMembers, depth_ofOption_integer,
      depth_ofOption_string]
    omega
  | _ =>
    simp [toJson, Json.depth, Json.depthMembers, depth_ofOption_integer, depth_ofOption_string]

theorem encode_not_isEmpty (t : MessageType) (m : t.Body) : (t.encode m).isEmpty = false := by
  obtain ⟨c, cs, hcs, -⟩ := Json.exists_write_cons (t.toJson m)
  have hne : t.encodeText m ≠ "" := by
    rw [encodeText, Json.text, hcs]
    exact fun h => List.cons_ne_nil c cs (by simpa using congrArg String.toList h)
  exact Json.isEmpty_toUTF8 hne

/-- Decoding undoes encoding, unless the text has a number that is too long. -/
theorem decode_encode_eq_ite (t : MessageType) (m : t.Body) (hm : t.WellFormed m) :
    t.decode (t.encode m) =
      if (t.toJson m).Readable then .ok m else .error ⟨t, [⟨.invalidJson, []⟩]⟩ := by
  have hparse : Json.parseBytes? (t.encode m) = _ :=
    Json.parseBytes?_text (t.toJson m) (depth_toJson t m)
  rw [decode, check, if_neg (by simp [encode_not_isEmpty]), hparse]
  split_ifs with hreadable
  · simp only [ofJson_toJson t m hm, Except.mapError]
  · rfl

def digits (n : ℤ) : ℕ := (Nat.toDigits 10 n.natAbs).length

/-- The number of digits bounds an integer, whatever its sign. -/
theorem digits_le_iff (n : ℤ) {k : ℕ} (hk : 0 < k) : digits n ≤ k ↔ n.natAbs < 10 ^ k :=
  Nat.length_toDigits_le_iff (by decide) hk

theorem lt_digits_pow {k : ℕ} (hk : 0 < k) : k < digits (10 ^ k) := by
  refine Nat.not_le.mp fun hle => ?_
  have hlt := (digits_le_iff _ hk).mp hle
  rw [Int.natAbs_pow] at hlt
  exact Nat.lt_irrefl _ hlt

/-- A message is readable just if no integer in it has too many digits. -/
theorem readable_toJson (t : MessageType) (m : t.Body) :
    (t.toJson m).Readable ↔ ∀ n ∈ t.integers m, digits n ≤ Json.maxDigits := by
  have hdigits : ∀ n, digits n ≤ Json.maxDigits ↔ n.natAbs < 10 ^ Json.maxDigits :=
    fun n => digits_le_iff n (by decide)
  simp only [Json.Readable, wholes_toJson, List.forall_mem_map, hdigits]

end MessageType

end VersionedStore
