import Mathlib
import VersionedStore.Proofs.Field.Problem
import VersionedStore.Proofs.Field.Record
import VersionedStore.Proofs.Json.Grammar.Values
import VersionedStore.Message.Codec

/-!
Which bodies are refused for their text. No check of a value reports what is
reported of a text, whichever message is expected. So the grammar alone says
which bodies are refused for their text, and an expected message says only what
becomes of the others.
-/

namespace VersionedStore

open VersionedStore.Field

theorem ErrorCode.aboutValue_read (r : Raw) : AboutValue (ErrorCode.read r) := by
  unfold ErrorCode.read
  repeat' split
  all_goals simp

theorem KeyValue.aboutValue_read (origin : Origin) (r : Raw) :
    AboutValue (KeyValue.read origin r) := by
  cases r with
  | record ms =>
    exact (((aboutValue_ok _).also (aboutValue_required aboutValue_text ms _)).also
      (aboutValue_withDefault (aboutValue_optional aboutValue_integer) ms _ _)).also
      (aboutValue_withDefault (aboutValue_payload origin) ms _ _)
  | _ => simp [KeyValue.read, record]

namespace MessageType

open VersionedStore.Json.Grammar

theorem aboutValue_readMembers (origin : Origin) (ms : List (String × Raw)) (t : MessageType) :
    AboutValue (readMembers origin ms t) := by
  have hstore := aboutValue_required aboutValue_nonEmptyText ms "store_id"
  have hkey := aboutValue_required aboutValue_text ms "key"
  have hinteger (name : String) :=
    aboutValue_withDefault (aboutValue_optional aboutValue_integer) ms name none
  have htext (name : String) :=
    aboutValue_withDefault (aboutValue_optional aboutValue_text) ms name none
  have hpairs (name : String) :=
    aboutValue_withDefault (aboutValue_list (KeyValue.aboutValue_read origin)) ms name []
  cases t with
  | keyValue => exact KeyValue.aboutValue_read origin _
  | getObjectRequest => exact ((aboutValue_ok _).also hstore).also hkey
  | getObjectResponse =>
    exact (aboutValue_ok _).also
      (aboutValue_withDefault (aboutValue_optional (KeyValue.aboutValue_read origin)) ms _ _)
  | putObjectRequest =>
    exact ((((aboutValue_ok _).also hstore).also (hpairs _)).also (hpairs _)).also (hinteger _)
  | putObjectResponse => exact aboutValue_ok _
  | deleteObjectRequest => exact (((aboutValue_ok _).also hstore).also hkey).also (hinteger _)
  | deleteObjectResponse => exact aboutValue_ok _
  | listKeyVersionsRequest =>
    have hsize := aboutValue_withDefault
      (aboutValue_optional (aboutValue_integerAbove 0)) ms "page_size" none
    exact ((((aboutValue_ok _).also hstore).also (htext _)).also hsize).also (htext _)
  | listKeyVersionsResponse =>
    exact (((aboutValue_ok _).also (hpairs _)).also (htext _)).also (hinteger _)
  | errorResponse =>
    exact ((aboutValue_ok _).also (aboutValue_withDefault ErrorCode.aboutValue_read ms _ _)).also
      (aboutValue_withDefault aboutValue_text ms _ _)

/-- What is wrong with a value is never that its text is no JSON. -/
theorem aboutValue_ofJson (t : MessageType) (j : Json) : AboutValue (t.ofJson j) := by
  unfold ofJson MessageType.read
  cases Raw.ofJson j with
  | record ms => exact aboutValue_readMembers .wire ms t
  | _ => simp [record]

theorem code_eq_iff (p : Problem) : p.code = "json_invalid" ↔ p = .invalidJson := by
  cases p <;> simp [Problem.code]

variable {body : ByteArray}

theorem not_isEmpty_of_denotes {j : Json} (h : Denotes body j) : body.isEmpty = false := by
  obtain ⟨s, rfl, g, t, g', -, ht, -, hs⟩ := h
  refine Json.isEmpty_toUTF8 fun hempty => ?_
  obtain ⟨c, cs, rfl, -⟩ := opens_value ht
  subst hempty
  simp at hs

theorem check_of_denotes (t : MessageType) {j : Json} (h : Denotes body j) :
    t.check body = t.ofJson j := by
  rw [check, if_neg (by simp [not_isEmpty_of_denotes h]), parseBytes?_iff.mpr h]

/-- A body that denotes a value is decoded by the fields of its type. -/
theorem decode_of_denotes (t : MessageType) {j : Json} (h : Denotes body j) :
    t.decode body = (t.ofJson j).mapError fun issues => ⟨t, issues⟩ := by
  rw [decode, check_of_denotes t h]

/-- Any other body is refused for its text alone, whatever was expected. -/
theorem decode_of_not_denotes (t : MessageType) (hbody : body.isEmpty = false)
    (h : ¬∃ j, Denotes body j) : t.decode body = .error ⟨t, [⟨.invalidJson, []⟩]⟩ := by
  have hparse : Json.parseBytes? body = none :=
    Option.eq_none_iff_forall_not_mem.mpr fun j hj => h ⟨j, parseBytes?_iff.mp hj⟩
  rw [decode, check, if_neg (by simp [hbody]), hparse]
  rfl

/-- A body that is decoded denotes a value, unless it is empty, and the message is
made from this value. -/
theorem exists_denotes_of_decode {t : MessageType} {m : t.Body} (hbody : body.isEmpty = false)
    (h : t.decode body = .ok m) : ∃ j, Denotes body j ∧ t.ofJson j = .ok m := by
  by_cases hdenotes : ∃ j, Denotes body j
  · obtain ⟨j, hj⟩ := hdenotes
    rw [decode_of_denotes t hj] at h
    exact ⟨j, hj, Checked.mapError_eq_ok.mp h⟩
  · rw [decode_of_not_denotes t hbody hdenotes] at h
    cases h

end MessageType

end VersionedStore
