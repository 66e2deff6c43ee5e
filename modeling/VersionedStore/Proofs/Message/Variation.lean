import Mathlib
import VersionedStore.Proofs.Field.Variation
import VersionedStore.Proofs.Message.Language

/-!
Bodies that are decoded alike. The fields of each message type say which
differences between two bodies do not matter; any number of such differences, at
any places, lead to the same message or to the same issues.
-/

namespace VersionedStore

open VersionedStore.Field

def KeyValue.shape : Shape :=
  .message [("key", .plain), ("version", .plain), ("value", .plain)]

def MessageType.shape : MessageType → Shape
  | .keyValue => KeyValue.shape
  | .getObjectRequest => .message [("store_id", .plain), ("key", .plain)]
  | .getObjectResponse => .message [("value", KeyValue.shape)]
  | .putObjectRequest =>
    .message [("store_id", .plain), ("transaction_items", .list KeyValue.shape),
      ("delete_items", .list KeyValue.shape), ("global_version", .plain)]
  | .putObjectResponse => .message []
  | .deleteObjectRequest => .message [("store_id", .plain), ("key", .plain), ("version", .plain)]
  | .deleteObjectResponse => .message []
  | .listKeyVersionsRequest =>
    .message [("store_id", .plain), ("key_prefix", .plain), ("page_size", .plain),
      ("page_token", .plain)]
  | .listKeyVersionsResponse =>
    .message [("key_versions", .list KeyValue.shape), ("next_page_token", .plain),
      ("global_version", .plain)]
  | .errorResponse => .message [("error_code", .plain), ("message", .plain)]

theorem ErrorCode.respects_read {s : Shape} : Respects s ErrorCode.read :=
  respects_of_flat (fun _ _ => rfl) (fun _ _ => rfl)

/-- A pair is read alike in whatever order and company its members stand. -/
theorem KeyValue.respects_read : Respects KeyValue.shape (KeyValue.read .wire) := by
  refine respects_record fun ms ms' h => ?_
  rw [required_congr h rfl respects_text, withDefault_congr h none rfl respects_integer.optional,
    withDefault_congr h ByteArray.empty rfl (respects_payload .wire)]

namespace MessageType

open VersionedStore.Json.Grammar

/-- Objects that vary as their type allows are read alike. -/
theorem readMembers_congr {t : MessageType} {ms ms' : List (String × Json)}
    (h : Variation t.shape (.object ms) (.object ms')) :
    readMembers .wire (Raw.ofJsonMembers ms) t = readMembers .wire (Raw.ofJsonMembers ms') t := by
  have hpairs : Respects (.list KeyValue.shape) (list (KeyValue.read .wire)) :=
    KeyValue.respects_read.list
  cases t with
  | keyValue => exact KeyValue.respects_read _ _ h
  | getObjectRequest =>
    simp only [readMembers]
    rw [required_congr h rfl respects_nonEmptyText, required_congr h rfl respects_text]
  | getObjectResponse =>
    simp only [readMembers]
    rw [withDefault_congr h none rfl KeyValue.respects_read.optional]
  | putObjectRequest =>
    simp only [readMembers]
    rw [required_congr h rfl respects_nonEmptyText, withDefault_congr h [] rfl hpairs,
      withDefault_congr h [] rfl hpairs, withDefault_congr h none rfl respects_integer.optional]
  | putObjectResponse => rfl
  | deleteObjectRequest =>
    simp only [readMembers]
    rw [required_congr h rfl respects_nonEmptyText, required_congr h rfl respects_text,
      withDefault_congr h none rfl respects_integer.optional]
  | deleteObjectResponse => rfl
  | listKeyVersionsRequest =>
    simp only [readMembers]
    rw [required_congr h rfl respects_nonEmptyText,
      withDefault_congr h none rfl respects_text.optional,
      withDefault_congr h none rfl (respects_integerAbove 0).optional,
      withDefault_congr h none rfl respects_text.optional]
  | listKeyVersionsResponse =>
    simp only [readMembers]
    rw [withDefault_congr h [] rfl hpairs, withDefault_congr h none rfl respects_text.optional,
      withDefault_congr h none rfl respects_integer.optional]
  | errorResponse =>
    simp only [readMembers]
    rw [withDefault_congr h .unknown rfl ErrorCode.respects_read,
      withDefault_congr h "" rfl respects_text]

theorem ofJson_congr {t : MessageType} {j k : Json} (h : Relation.EqvGen (Variation t.shape) j k) :
    t.ofJson j = t.ofJson k := by
  have hread : Respects t.shape (t.read .wire) := respects_record fun _ _ => readMembers_congr
  induction h with
  | rel j k h => exact hread j k h
  | refl j => rfl
  | symm j k _ ih => exact ih.symm
  | trans i j k _ _ ih ih' => exact ih.trans ih'

/-- Bodies are decoded alike if their values differ only in what does not matter
to the expected message; white space and the spelling of strings make no
difference between values. -/
theorem decode_eq_of_variations (t : MessageType) {body body' : ByteArray} {j k : Json}
    (hbody : Denotes body j) (hbody' : Denotes body' k)
    (h : Relation.EqvGen (Variation t.shape) j k) : t.decode body = t.decode body' := by
  rw [decode_of_denotes t hbody, decode_of_denotes t hbody', ofJson_congr h]

/-- Two bodies that are no messages for the same two reasons: their members come
in different orders, one has a member that is no field, and the other one has a
repeated member and spells a name with an escape. -/
theorem decode_eq_of_reordered :
    let body :=
      "\x7b\"key_versions\":[\x7b\"x\":0,\"key\":1\x7d],\"global_version\":[]\x7d".toUTF8
    let body' :=
      "\x7b \"global_version\":[],\"key_versions\":5,\"key_versions\":[\x7b\"k\\u0065y\":1\x7d]\x7d"
        |>.toUTF8
    decode .listKeyVersionsResponse body = decode .listKeyVersionsResponse body' ∧
      decode .listKeyVersionsResponse body' = .error ⟨.listKeyVersionsResponse,
        [⟨.notText, [.name "key_versions", .index 0, .name "key"]⟩,
          ⟨.notInteger, [.name "global_version"]⟩]⟩ := by
  intro body body'
  let version : String × Json := ("global_version", .array [])
  let repeated : String × Json := ("key_versions", .integer 5)
  let pairs (ms : List (String × Json)) : String × Json := ("key_versions", .array [.object ms])
  let longer := pairs [("x", .integer 0), ("key", .integer 1)]
  let shorter := pairs [("key", .integer 1)]
  have hbody : Denotes body (.object [longer, version]) := denotes_toUTF8.mpr (by cbv)
  have hbody' : Denotes body' (.object [version, repeated, shorter]) :=
    denotes_toUTF8.mpr (by cbv)
  have hpair : Variation KeyValue.shape
      (.object ([] ++ ("x", .integer 0) :: [("key", .integer 1)]))
      (.object ([] ++ [("key", .integer 1)])) := .unknown rfl
  have hpairs : Variation (.list KeyValue.shape)
      (.array ([] ++ .object [("x", .integer 0), ("key", .integer 1)] :: []))
      (.array ([] ++ .object [("key", .integer 1)] :: [])) := .item hpair
  have hmember : Variation listKeyVersionsResponse.shape
      (.object ([] ++ longer :: [version])) (.object ([] ++ shorter :: [version])) :=
    .member rfl hpairs
  have hswapped : Variation listKeyVersionsResponse.shape
      (.object ([] ++ shorter :: version :: [])) (.object ([] ++ version :: shorter :: [])) :=
    .swapped (by decide)
  have hrepeated : Variation listKeyVersionsResponse.shape
      (.object ([version] ++ repeated :: [shorter])) (.object ([version] ++ [shorter])) :=
    .repeated (by simp [shorter, pairs])
  have hdifferences : Relation.EqvGen (Variation listKeyVersionsResponse.shape)
      (.object [longer, version]) (.object [version, repeated, shorter]) :=
    .trans _ _ _ (.rel _ _ hmember)
      (.trans _ _ _ (.rel _ _ hswapped) (.symm _ _ (.rel _ _ hrepeated)))
  exact ⟨decode_eq_of_variations _ hbody hbody' hdifferences, decode_of_denotes _ hbody'⟩

end MessageType

end VersionedStore
