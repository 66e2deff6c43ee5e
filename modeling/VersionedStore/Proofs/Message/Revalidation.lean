import VersionedStore.Proofs.Field.Present
import VersionedStore.Proofs.Message.Language
import VersionedStore.Proofs.Message.RoundTrip

/-!
The values that are in the fields of a message, whichever way it came about. What a
caller or a body gave may have been converted on the way in; what is in a message
afterwards is of the kind that its field is declared with, and is accepted as it is
when the message is built again.
-/

namespace VersionedStore

open VersionedStore.Field

inductive FieldKind where
  | text
  | filledText
  | integer
  | positiveInteger
  | errorCode
  | payload
  | pair
  | optional (kind : FieldKind)
  | list (kind : FieldKind)

namespace FieldKind

/-- The raw values of a kind. An integer is neither a boolean nor a number with a
fraction nor a text, and a payload is bytes. -/
inductive Admits : FieldKind → Raw → Prop where
  | text (s : String) : Admits .text (.text s)
  | filledText {s : String} (h : s ≠ "") : Admits .filledText (.text s)
  | integer (n : ℤ) : Admits .integer (.integer n)
  | positiveInteger {n : ℤ} (h : 1 ≤ n) : Admits .positiveInteger (.integer n)
  | errorCode {n : ℤ} (hlow : 0 ≤ n) (hhigh : n ≤ 5) : Admits .errorCode (.integer n)
  | payload (b : ByteArray) : Admits .payload (.bytes b)
  | pair {key version value : Raw} (hkey : Admits .text key)
    (hversion : Admits (.optional .integer) version) (hvalue : Admits .payload value) :
    Admits .pair (.record [("key", key), ("version", version), ("value", value)])
  | absent (kind : FieldKind) : Admits (.optional kind) .none
  | present {kind : FieldKind} {r : Raw} (h : Admits kind r) : Admits (.optional kind) r
  | list {kind : FieldKind} {rs : List Raw} (h : ∀ r ∈ rs, Admits kind r) :
    Admits (.list kind) (.list rs)

theorem admits_rawOption {α : Type} {kind : FieldKind} {wrap : α → Raw} {o : Option α}
    (h : ∀ x, o = some x → kind.Admits (wrap x)) : (optional kind).Admits (rawOption wrap o) := by
  cases o with
  | none => exact .absent kind
  | some x => exact .present (h x rfl)

theorem admits_map {α : Type} {kind : FieldKind} {wrap : α → Raw} (h : ∀ x, kind.Admits (wrap x))
    (xs : List α) : (list kind).Admits (.list (xs.map wrap)) := by
  refine .list fun r hr => ?_
  obtain ⟨x, -, rfl⟩ := List.mem_map.mp hr
  exact h x

end FieldKind

namespace Field

theorem optional_rawOption {α : Type} {read : Raw → Checked α} {wrap : α → Raw} {o : Option α}
    (hread : ∀ x, o = some x → read (wrap x) = .ok x) (hwrap : ∀ x, wrap x ≠ .none) :
    optional read (rawOption wrap o) = .ok o := by
  cases o with
  | none => rfl
  | some x => exact optional_eq_ok_some (hread x rfl) (hwrap x)

end Field

namespace KeyValue

def toRaw (kv : KeyValue) : Raw :=
  .record [("key", .text kv.key), ("version", rawOption .integer kv.version),
    ("value", .bytes kv.value)]

theorem admits_toRaw (kv : KeyValue) : FieldKind.pair.Admits kv.toRaw :=
  .pair (.text _) (FieldKind.admits_rawOption fun n _ => .integer n) (.payload _)

/-- A pair is taken from a caller, or from a body, as it is. -/
theorem read_toRaw (origin : Origin) (kv : KeyValue) : read origin kv.toRaw = .ok kv := by
  have hversion : optional integer (rawOption .integer kv.version) = .ok kv.version :=
    optional_rawOption (fun _ _ => rfl) fun _ => by simp
  simp [toRaw, read, record, required, withDefault, lookup?, hversion, payload, text,
    Checked.inside, Checked.also]

end KeyValue

namespace MessageType

def fieldKinds : MessageType → List (String × FieldKind)
  | .keyValue => [("key", .text), ("version", .optional .integer), ("value", .payload)]
  | .getObjectRequest => [("store_id", .filledText), ("key", .text)]
  | .getObjectResponse => [("value", .optional .pair)]
  | .putObjectRequest =>
    [("store_id", .filledText), ("transaction_items", .list .pair), ("delete_items", .list .pair),
      ("global_version", .optional .integer)]
  | .putObjectResponse => []
  | .deleteObjectRequest =>
    [("store_id", .filledText), ("key", .text), ("version", .optional .integer)]
  | .deleteObjectResponse => []
  | .listKeyVersionsRequest =>
    [("store_id", .filledText), ("key_prefix", .optional .text),
      ("page_size", .optional .positiveInteger), ("page_token", .optional .text)]
  | .listKeyVersionsResponse =>
    [("key_versions", .list .pair), ("next_page_token", .optional .text),
      ("global_version", .optional .integer)]
  | .errorResponse => [("error_code", .errorCode), ("message", .text)]

def fields : (t : MessageType) → t.Body → List (String × Raw)
  | .keyValue, m =>
    [("key", .text m.key), ("version", rawOption .integer m.version), ("value", .bytes m.value)]
  | .getObjectRequest, m => [("store_id", .text m.storeId), ("key", .text m.key)]
  | .getObjectResponse, m => [("value", rawOption KeyValue.toRaw m.value)]
  | .putObjectRequest, m =>
    [("store_id", .text m.storeId),
      ("transaction_items", .list (m.transactionItems.map KeyValue.toRaw)),
      ("delete_items", .list (m.deleteItems.map KeyValue.toRaw)),
      ("global_version", rawOption .integer m.globalVersion)]
  | .putObjectResponse, _ => []
  | .deleteObjectRequest, m =>
    [("store_id", .text m.storeId), ("key", .text m.key),
      ("version", rawOption .integer m.version)]
  | .deleteObjectResponse, _ => []
  | .listKeyVersionsRequest, m =>
    [("store_id", .text m.storeId), ("key_prefix", rawOption .text m.keyPrefix),
      ("page_size", rawOption .integer m.pageSize), ("page_token", rawOption .text m.pageToken)]
  | .listKeyVersionsResponse, m =>
    [("key_versions", .list (m.keyVersions.map KeyValue.toRaw)),
      ("next_page_token", rawOption .text m.nextPageToken),
      ("global_version", rawOption .integer m.globalVersion)]
  | .errorResponse, m =>
    [("error_code", .integer m.errorCode.toInt), ("message", .text m.message)]

/-- A message exists if a caller can build it from raw values, or if there is a body
that is decoded to it. -/
inductive Exists (t : MessageType) (m : t.Body) : Prop where
  | built (r : Raw) (h : t.read .caller r = .ok m)
  | decoded (body : ByteArray) (h : t.decode body = .ok m)

def Declared : List (String × FieldKind) → List (String × Raw) → Prop :=
  List.Forall₂ fun declared field => declared.1 = field.1 ∧ declared.2.Admits field.2

variable {t : MessageType} {m : t.Body}

/-- Every message that exists has passed the checks of its type. -/
theorem Exists.wellFormed (h : t.Exists m) : t.WellFormed m := by
  cases h with
  | built r hread => exact wellFormed_of_read hread
  | decoded body hdecode =>
    have hcheck := Checked.mapError_eq_ok.mp hdecode
    unfold check at hcheck
    split at hcheck
    · exact wellFormed_of_read hcheck
    · split at hcheck
      · exact wellFormed_of_read hcheck
      · exact absurd hcheck fail_ne_ok

/-- The values of a message are of the kinds that its fields are declared with. -/
theorem declared_fields (hm : t.WellFormed m) : Declared t.fieldKinds (t.fields m) := by
  have htext (o : Option String) : FieldKind.Admits (.optional .text) (rawOption .text o) :=
    FieldKind.admits_rawOption fun s _ => .text s
  have hinteger (o : Option ℤ) : FieldKind.Admits (.optional .integer) (rawOption .integer o) :=
    FieldKind.admits_rawOption fun n _ => .integer n
  have hpairs (kvs : List KeyValue) := FieldKind.admits_map KeyValue.admits_toRaw kvs
  cases t with
  | keyValue =>
    exact .cons ⟨rfl, .text _⟩ (.cons ⟨rfl, hinteger _⟩ (.cons ⟨rfl, .payload _⟩ .nil))
  | getObjectRequest => exact .cons ⟨rfl, .filledText hm⟩ (.cons ⟨rfl, .text _⟩ .nil)
  | getObjectResponse =>
    exact .cons ⟨rfl, FieldKind.admits_rawOption fun kv _ => kv.admits_toRaw⟩ .nil
  | putObjectRequest =>
    exact .cons ⟨rfl, .filledText hm⟩
      (.cons ⟨rfl, hpairs _⟩ (.cons ⟨rfl, hpairs _⟩ (.cons ⟨rfl, hinteger _⟩ .nil)))
  | putObjectResponse => exact .nil
  | deleteObjectRequest =>
    exact .cons ⟨rfl, .filledText hm⟩ (.cons ⟨rfl, .text _⟩ (.cons ⟨rfl, hinteger _⟩ .nil))
  | deleteObjectResponse => exact .nil
  | listKeyVersionsRequest =>
    have hsize := FieldKind.admits_rawOption fun n hn => .positiveInteger (hm.2 n hn)
    exact .cons ⟨rfl, .filledText hm.1⟩
      (.cons ⟨rfl, htext _⟩ (.cons ⟨rfl, hsize⟩ (.cons ⟨rfl, htext _⟩ .nil)))
  | listKeyVersionsResponse =>
    exact .cons ⟨rfl, hpairs _⟩ (.cons ⟨rfl, htext _⟩ (.cons ⟨rfl, hinteger _⟩ .nil))
  | errorResponse =>
    have hcode : FieldKind.errorCode.Admits (.integer m.errorCode.toInt) := by
      cases m.errorCode <;> exact .errorCode (by decide) (by decide)
    exact .cons ⟨rfl, hcode⟩ (.cons ⟨rfl, .text _⟩ .nil)

/-- A message is built again from its own fields. -/
theorem read_fields (origin : Origin) (hm : t.WellFormed m) :
    t.read origin (.record (t.fields m)) = .ok m := by
  have htext (o : Option String) : optional text (rawOption .text o) = .ok o :=
    optional_rawOption (fun _ _ => rfl) fun _ => by simp
  have hinteger (o : Option ℤ) : optional integer (rawOption .integer o) = .ok o :=
    optional_rawOption (fun _ _ => rfl) fun _ => by simp
  have hlist (kvs : List KeyValue) :
      list (KeyValue.read origin) (.list (kvs.map KeyValue.toRaw)) = .ok kvs :=
    list_map kvs (KeyValue.read_toRaw origin)
  cases t with
  | keyValue => exact KeyValue.read_toRaw origin m
  | getObjectRequest =>
    have hstore := nonEmptyText_text hm
    simp [read, readMembers, fields, record, required, lookup?, hstore, text, Checked.inside,
      Checked.also]
  | getObjectResponse =>
    have hvalue : optional (KeyValue.read origin) (rawOption KeyValue.toRaw m.value) =
        .ok m.value := optional_rawOption (fun kv _ => kv.read_toRaw origin)
        fun _ => by simp [KeyValue.toRaw]
    simp [read, readMembers, fields, record, withDefault, lookup?, hvalue, Checked.inside,
      Checked.also]
  | putObjectRequest =>
    have hstore := nonEmptyText_text hm
    simp [read, readMembers, fields, record, required, withDefault, lookup?, hstore, hlist,
      hinteger, Checked.inside, Checked.also]
  | putObjectResponse => rfl
  | deleteObjectRequest =>
    have hstore := nonEmptyText_text hm
    simp [read, readMembers, fields, record, required, withDefault, lookup?, hstore, hinteger,
      text, Checked.inside, Checked.also]
  | deleteObjectResponse => rfl
  | listKeyVersionsRequest =>
    have hstore := nonEmptyText_text hm.1
    have hsize : optional (integerAbove 0) (rawOption .integer m.pageSize) = .ok m.pageSize :=
      optional_rawOption (fun n hn => by simp [integerAbove, integer, hm.2 n hn])
        fun _ => by simp
    simp [read, readMembers, fields, record, required, withDefault, lookup?, hstore, htext, hsize,
      Checked.inside, Checked.also]
  | listKeyVersionsResponse =>
    simp [read, readMembers, fields, record, withDefault, lookup?, hlist, htext, hinteger,
      Checked.inside, Checked.also]
  | errorResponse =>
    have hcode : ErrorCode.read (.integer m.errorCode.toInt) = .ok m.errorCode := by
      cases m.errorCode <;> rfl
    simp [read, readMembers, fields, record, withDefault, lookup?, hcode, text, Checked.inside,
      Checked.also]

end MessageType

end VersionedStore
