import VersionedStore.Proofs.Field.Size
import VersionedStore.Proofs.Message.Language
import VersionedStore.Proofs.Message.RoundTrip

/-!
Messages that come from a body. Whatever the body looks like, the message that it
is decoded to can be encoded and decoded again: its integers are short, in
whichever form the body gives them, and its other fields are what a message
requires of them.
-/

namespace VersionedStore

open VersionedStore.Field

namespace KeyValue

/-- A pair that is read of short integers has short integers. -/
theorem keepsShort_read (origin : Origin) : KeepsShort integers (read origin) := by
  intro r kv hr hread
  obtain ⟨ms, rfl, hms⟩ := record_eq_ok.mp hread
  simp only [Checked.also_eq_ok] at hms
  obtain ⟨_, _, ⟨_, _, ⟨_, _, ⟨⟩, -, rfl⟩, hversion, rfl⟩, -, rfl⟩ := hms
  cases hr with
  | record hmembers => exact keepsShort_integer.optional_integer.withDefault hmembers rfl hversion

end KeyValue

theorem ErrorCode.short_toInt (c : ErrorCode) : Short c.toInt := by
  cases c <;> exact short_of_natAbs_lt (by decide)

namespace MessageType

/-- A message that is read of short integers can be written and read again. -/
theorem short_of_readMembers {origin : Origin} {ms : List (String × Raw)}
    (hms : ∀ m ∈ ms, m.2.Short) {t : MessageType} {m : t.Body}
    (h : readMembers origin ms t = .ok m) : ∀ n ∈ t.integers m, Short n := by
  have hpairs := (KeyValue.keepsShort_read origin).list
  have hinteger := keepsShort_integer.optional_integer
  cases t with
  | keyValue => exact KeyValue.keepsShort_read origin _ m (.record hms) h
  | getObjectResponse =>
    simp only [readMembers, Checked.also_eq_ok] at h
    obtain ⟨_, _, ⟨⟩, hvalue, rfl⟩ := h
    exact (KeyValue.keepsShort_read origin).optional.withDefault hms rfl hvalue
  | putObjectRequest =>
    simp only [readMembers, Checked.also_eq_ok] at h
    obtain ⟨_, _, ⟨_, _, ⟨_, _, ⟨_, _, ⟨⟩, -, rfl⟩, hitems, rfl⟩, hdeletes, rfl⟩, hversion, rfl⟩ := h
    simp only [integers, List.forall_mem_append]
    exact ⟨⟨hpairs.withDefault hms rfl hitems, hpairs.withDefault hms rfl hdeletes⟩,
      hinteger.withDefault hms rfl hversion⟩
  | deleteObjectRequest =>
    simp only [readMembers, Checked.also_eq_ok] at h
    obtain ⟨_, _, ⟨_, _, ⟨_, _, ⟨⟩, -, rfl⟩, -, rfl⟩, hversion, rfl⟩ := h
    exact hinteger.withDefault hms rfl hversion
  | listKeyVersionsRequest =>
    simp only [readMembers, Checked.also_eq_ok] at h
    obtain ⟨_, _, ⟨_, _, ⟨_, _, ⟨_, _, ⟨⟩, -, rfl⟩, -, rfl⟩, hsize, rfl⟩, -, rfl⟩ := h
    exact (keepsShort_integerAbove 0).optional_integer.withDefault hms rfl hsize
  | listKeyVersionsResponse =>
    simp only [readMembers, Checked.also_eq_ok] at h
    obtain ⟨_, _, ⟨_, _, ⟨_, _, ⟨⟩, hkvs, rfl⟩, -, rfl⟩, hversion, rfl⟩ := h
    exact List.forall_mem_append.mpr
      ⟨hpairs.withDefault hms rfl hkvs, hinteger.withDefault hms rfl hversion⟩
  | errorResponse => exact List.forall_mem_singleton.mpr (ErrorCode.short_toInt _)
  | _ => exact List.forall_mem_nil _

/-- What a body is decoded to is read from a record without long integers. An
empty body stands for a record without members. -/
theorem exists_record_of_decode {t : MessageType} {body : ByteArray} {m : t.Body}
    (h : t.decode body = .ok m) :
    ∃ ms : List (String × Raw), (∀ member ∈ ms, member.2.Short) ∧
      readMembers .wire ms t = .ok m := by
  cases hempty : body.isEmpty with
  | true =>
    rw [decode, check, if_pos hempty, Checked.mapError_eq_ok] at h
    exact ⟨[], by simp, h⟩
  | false =>
    obtain ⟨j, hj, hread⟩ := exists_denotes_of_decode hempty h
    obtain ⟨ms, hms, hmessage⟩ := record_eq_ok.mp hread
    have hshort := raw_short_of_denotes hj
    rw [hms] at hshort
    cases hshort with
    | record hmembers => exact ⟨ms, hmembers, hmessage⟩

/-- A message that was decoded comes back from its encoding, however its body was
written, since none of its integers is too long. -/
theorem decode_encode_of_decode {t : MessageType} {body : ByteArray} {m : t.Body}
    (h : t.decode body = .ok m) :
    t.decode (t.encode m) = .ok m ∧ ∀ n ∈ t.integers m, digits n ≤ 4300 := by
  obtain ⟨ms, hms, hread⟩ := exists_record_of_decode h
  have hdigits : ∀ n ∈ t.integers m, digits n ≤ Json.maxDigits :=
    fun n hn => (digits_le_iff n (by decide)).mpr (short_of_readMembers hms hread n hn)
  have hdecode := decode_encode_eq_ite t m (wellFormed_of_readMembers hread)
  rw [if_pos ((readable_toJson t m).mpr hdigits)] at hdecode
  exact ⟨hdecode, hdigits⟩

set_option maxRecDepth 2000 in
/-- Versions as a text with a sign, zeros, an underscore and a fraction, and as a
number with an exponent, and a payload with bits that are dropped. -/
theorem decode_encode_of_loose_spellings :
    let body := "\x7b\"key_versions\":[\x7b\"key\":\"\",\"version\":\" +0_01_2.0\"," ++
      "\"value\":\"AB==\"\x7d],\"global_version\":-1.5e1\x7d"
    let page : ListKeyVersionsResponse := ⟨[⟨"", some 12, ⟨#[0]⟩⟩], none, some (-15)⟩
    decode .listKeyVersionsResponse body.toUTF8 = .ok page ∧
      decode .listKeyVersionsResponse (encode .listKeyVersionsResponse page) = .ok page := by
  intro body page
  let item : Json := .object [("key", .string ""), ("version", .string " +0_01_2.0"),
    ("value", .string "AB==")]
  have hbody : Json.Grammar.Denotes body.toUTF8 (.object [("key_versions", .array [item]),
      ("global_version", .real (.decimal ⟨true, 15, 0⟩))]) :=
    Json.Grammar.denotes_toUTF8.mpr (by cbv)
  have hdecode : decode .listKeyVersionsResponse body.toUTF8 = .ok page := by
    rw [decode_of_denotes _ hbody]
    decide +kernel
  exact ⟨hdecode, (decode_encode_of_decode hdecode).1⟩

end MessageType

end VersionedStore
