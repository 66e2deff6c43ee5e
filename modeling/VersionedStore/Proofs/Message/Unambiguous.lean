import VersionedStore.Proofs.Json.Unambiguous
import VersionedStore.Proofs.Message.RoundTrip

/-!
Messages of one type that differ are written differently, so that no two writes
look alike on the wire. That cannot be had from the decoder, which refuses long
integers; it rests on the text of a JSON value instead, and on the fact that an
absent field, which is written as null, is told from every field that is there.
-/

namespace VersionedStore

namespace Json

variable {α : Type}

/-- A value that is left out is told from all that may be given. -/
theorem ofOption_injective {write : α → Json} (hwrite : Function.Injective write)
    (hnull : ∀ x, write x ≠ .null) : Function.Injective (ofOption write) := by
  intro o o' h
  cases o with
  | none =>
    cases o' with
    | none => rfl
    | some y => exact absurd h.symm (hnull y)
  | some x =>
    cases o' with
    | none => exact absurd h (hnull x)
    | some y => rw [hwrite h]

theorem ofOption_integer_injective : Function.Injective (ofOption .integer) :=
  ofOption_injective (fun _ _ => integer.inj) nofun

theorem ofOption_string_injective : Function.Injective (ofOption .string) :=
  ofOption_injective (fun _ _ => string.inj) nofun

/-- The text of a payload is undone by the scanner of base64. -/
theorem payload_injective : Function.Injective payload := by
  intro b b' h
  have htext := congrArg Base64.decode (String.ofList_injective (string.inj h))
  rw [Base64.decode_encode, Base64.decode_encode] at htext
  exact ByteArray.ext (Array.toList_inj.mp (Except.ok.inj htext))

end Json

/-- Pairs that are written alike are equal, payloads included. -/
theorem KeyValue.toJson_injective : Function.Injective KeyValue.toJson := by
  intro kv kv' h
  obtain ⟨key, version, value⟩ := kv
  obtain ⟨key', version', value'⟩ := kv'
  simp only [toJson, Json.object.injEq, Json.string.injEq, List.cons.injEq, Prod.mk.injEq,
    true_and, and_true] at h
  obtain ⟨rfl, hversion, hvalue⟩ := h
  rw [Json.ofOption_integer_injective hversion, Json.payload_injective hvalue]

theorem KeyValue.toJson_ne_null (kv : KeyValue) : kv.toJson ≠ .null := by
  simp [toJson]

theorem ErrorCode.toInt_injective : Function.Injective ErrorCode.toInt := by
  intro c c' h
  have hread := congrArg ErrorCode.ofInt? h
  simpa using hread

namespace MessageType

/-- The JSON value of a message holds all of it. -/
theorem toJson_injective (t : MessageType) : Function.Injective t.toJson := by
  have hlist : Function.Injective (List.map KeyValue.toJson) :=
    List.map_injective_iff.mpr KeyValue.toJson_injective
  intro m m' h
  cases t with
  | keyValue => exact KeyValue.toJson_injective h
  | getObjectRequest =>
    obtain ⟨storeId, key⟩ := m
    obtain ⟨storeId', key'⟩ := m'
    simp only [toJson, Json.object.injEq, Json.string.injEq, List.cons.injEq, Prod.mk.injEq,
      true_and, and_true] at h
    obtain ⟨rfl, rfl⟩ := h
    rfl
  | getObjectResponse =>
    obtain ⟨value⟩ := m
    obtain ⟨value'⟩ := m'
    simp only [toJson, Json.object.injEq, List.cons.injEq, Prod.mk.injEq, true_and, and_true] at h
    rw [Json.ofOption_injective KeyValue.toJson_injective KeyValue.toJson_ne_null h]
  | putObjectRequest =>
    obtain ⟨storeId, items, deletes, version⟩ := m
    obtain ⟨storeId', items', deletes', version'⟩ := m'
    simp only [toJson, Json.object.injEq, Json.string.injEq, Json.array.injEq, List.cons.injEq,
      Prod.mk.injEq, true_and, and_true] at h
    obtain ⟨rfl, hitems, hdeletes, hversion⟩ := h
    rw [hlist hitems, hlist hdeletes, Json.ofOption_integer_injective hversion]
  | putObjectResponse => rfl
  | deleteObjectRequest =>
    obtain ⟨storeId, key, version⟩ := m
    obtain ⟨storeId', key', version'⟩ := m'
    simp only [toJson, Json.object.injEq, Json.string.injEq, List.cons.injEq, Prod.mk.injEq,
      true_and, and_true] at h
    obtain ⟨rfl, rfl, hversion⟩ := h
    rw [Json.ofOption_integer_injective hversion]
  | deleteObjectResponse => rfl
  | listKeyVersionsRequest =>
    obtain ⟨storeId, keyPrefix, pageSize, pageToken⟩ := m
    obtain ⟨storeId', keyPrefix', pageSize', pageToken'⟩ := m'
    simp only [toJson, Json.object.injEq, Json.string.injEq, List.cons.injEq, Prod.mk.injEq,
      true_and, and_true] at h
    obtain ⟨rfl, hprefix, hsize, htoken⟩ := h
    rw [Json.ofOption_string_injective hprefix, Json.ofOption_integer_injective hsize,
      Json.ofOption_string_injective htoken]
  | listKeyVersionsResponse =>
    obtain ⟨keyVersions, nextPageToken, globalVersion⟩ := m
    obtain ⟨keyVersions', nextPageToken', globalVersion'⟩ := m'
    simp only [toJson, Json.object.injEq, Json.array.injEq, List.cons.injEq, Prod.mk.injEq,
      true_and, and_true] at h
    obtain ⟨hkvs, htoken, hversion⟩ := h
    rw [hlist hkvs, Json.ofOption_string_injective htoken, Json.ofOption_integer_injective hversion]
  | errorResponse =>
    obtain ⟨errorCode, message⟩ := m
    obtain ⟨errorCode', message'⟩ := m'
    simp only [toJson, Json.object.injEq, Json.integer.injEq, Json.string.injEq, List.cons.injEq,
      Prod.mk.injEq, true_and, and_true] at h
    obtain ⟨hcode, rfl⟩ := h
    rw [ErrorCode.toInt_injective hcode]

/-- Bodies of one type are the same just if the messages are, however long the
integers in them may be. -/
theorem encode_eq_encode_iff (t : MessageType) (m m' : t.Body) :
    t.encode m = t.encode m' ↔ m = m' := by
  constructor
  · intro h
    have htext : (t.toJson m).text = (t.toJson m').text := Json.toUTF8_injective h
    exact t.toJson_injective (Json.text_injective htext)
  · intro h
    rw [h]

end MessageType

end VersionedStore
