import Mathlib.Data.List.Basic
import VersionedStore.Proofs.Field.Numeral
import VersionedStore.Proofs.Field.Record

/-!
How long the integers are that checks let through. A value of a body shows no
integer that is too long for the reader of JSON, and none of the other forms in
which an integer may be given, be it a text, a real or a boolean, makes a longer
one. So the integers in what is built from a body can be written again.
-/

namespace VersionedStore

def Short (n : ℤ) : Prop := n.natAbs < 10 ^ Json.maxDigits

inductive Raw.Short : Raw → Prop where
  | none : Short .none
  | bool (b : Bool) : Short (.bool b)
  | integer {n : ℤ} (h : VersionedStore.Short n) : Short (.integer n)
  | real (x : Binary64) : Short (.real x)
  | text (s : String) : Short (.text s)
  | bytes (b : ByteArray) : Short (.bytes b)
  | list {items : List Raw} (h : ∀ r ∈ items, Short r) : Short (.list items)
  | record {members : List (String × Raw)} (h : ∀ m ∈ members, Short m.2) :
    Short (.record members)

section Grammar

open VersionedStore.Json.Grammar

/-- The reader of JSON takes no whole part that is too long. -/
theorem short_of_whole {ds : List Char} (h : Whole ds) (negative : Bool) :
    Short (Number.signed negative (decimal ds)) := by
  rw [Short, Field.natAbs_signed]
  exact h.decimal_lt

theorem raw_short_of_magnitude {negative : Bool} {t : List Char} {j : Json}
    (h : Magnitude negative t j) : (Raw.ofJson j).Short := by
  cases h with
  | integer h => exact .integer (short_of_whole h negative)
  | real => exact .real _

theorem raw_short_of_word {t : List Char} {j : Json} (h : Word t j) : (Raw.ofJson j).Short := by
  cases h <;> constructor

mutual

/-- A text shows no integer that is too long, at any depth. -/
theorem raw_short_of_value {level : ℕ} {t : List Char} {j : Json} (h : Value level t j) :
    (Raw.ofJson j).Short := by
  cases h with
  | word h => exact raw_short_of_word h
  | positive h => exact raw_short_of_magnitude h
  | negative h => exact raw_short_of_magnitude h
  | string => exact .text _
  | emptyArray => exact .list (by simp [Raw.ofJsonItems])
  | array _ h =>
    rw [Raw.ofJson, Field.ofJsonItems_eq]
    exact .list (List.forall_mem_map.mpr (raw_short_of_elements h))
  | emptyObject => exact .record (by simp [Raw.ofJsonMembers])
  | object _ h =>
    rw [Raw.ofJson, Field.ofJsonMembers_eq]
    exact .record (List.forall_mem_map.mpr (raw_short_of_members h))

theorem raw_short_of_elements {level : ℕ} {t : List Char} {js : List Json}
    (h : Elements level t js) : ∀ j ∈ js, (Raw.ofJson j).Short := by
  cases h with
  | one _ h _ => exact List.forall_mem_singleton.mpr (raw_short_of_value h)
  | cons _ h _ hs =>
    exact List.forall_mem_cons.mpr ⟨raw_short_of_value h, raw_short_of_elements hs⟩

theorem raw_short_of_member {level : ℕ} {t : List Char} {m : String × Json}
    (h : Member level t m) : (Raw.ofJson m.2).Short := by
  cases h with
  | mk _ _ _ h => exact raw_short_of_value h

theorem raw_short_of_members {level : ℕ} {t : List Char} {ms : List (String × Json)}
    (h : Members level t ms) : ∀ m ∈ ms, (Raw.ofJson m.2).Short := by
  cases h with
  | one _ h _ => exact List.forall_mem_singleton.mpr (raw_short_of_member h)
  | cons _ h _ hs =>
    exact List.forall_mem_cons.mpr ⟨raw_short_of_member h, raw_short_of_members hs⟩

end

/-- A body that is read holds no integer that is too long. -/
theorem raw_short_of_denotes {body : ByteArray} {j : Json} (h : Denotes body j) :
    (Raw.ofJson j).Short := by
  obtain ⟨_, _, _, _, _, _, hvalue, -, -⟩ := h
  exact raw_short_of_value hvalue

end Grammar

namespace Field

variable {α : Type} {integers : α → List ℤ} {read : Raw → Checked α}

theorem short_of_natAbs_lt {n : ℤ} (h : n.natAbs < realBound) : Short n :=
  Nat.lt_trans h (by decide +kernel)

/-- An integer that is made of a real has 64 bits, and so few digits. -/
theorem short_of_integerOfReal {x : Binary64} {n : ℤ} (h : integerOfReal x = .ok n) : Short n := by
  unfold integerOfReal at h
  split_ifs at h
  · exact absurd h fail_ne_ok
  · split at h
    · exact absurd h fail_ne_ok
    · split_ifs at h with hbound
      · obtain rfl := Except.ok.inj h
        exact short_of_natAbs_lt hbound
      · exact absurd h fail_ne_ok

/-- What a check makes of a value without long integers has none either. -/
def KeepsShort (integers : α → List ℤ) (read : Raw → Checked α) : Prop :=
  ∀ r x, r.Short → read r = .ok x → ∀ n ∈ integers x, Short n

/-- An integer may come of a literal, a text or a real; it is short each time. -/
theorem keepsShort_integer : KeepsShort List.singleton integer := by
  intro r x hr hx n hn
  obtain rfl := List.mem_singleton.mp hn
  cases hr with
  | integer h =>
    obtain rfl := Except.ok.inj hx
    exact h
  | bool b =>
    obtain rfl := Except.ok.inj hx
    cases b <;> exact short_of_natAbs_lt (by decide)
  | real y => exact short_of_integerOfReal hx
  | text s => exact natAbs_lt_of_integerOfText hx
  | bytes b =>
    simp only [integer] at hx
    split at hx
    · exact natAbs_lt_of_integerOfText hx
    · exact absurd hx fail_ne_ok
  | _ => exact absurd hx fail_ne_ok

theorem integer_of_integerAbove {bound n : ℤ} {r : Raw} (h : integerAbove bound r = .ok n) :
    integer r = .ok n := by
  unfold integerAbove at h
  split at h
  · next k hk =>
    split_ifs at h
    · obtain rfl := Except.ok.inj h
      exact hk
    · exact absurd h fail_ne_ok
  · cases h

theorem keepsShort_integerAbove (bound : ℤ) : KeepsShort List.singleton (integerAbove bound) :=
  fun r x hr hx => keepsShort_integer r x hr (integer_of_integerAbove hx)

namespace KeepsShort

theorem optional (h : KeepsShort integers read) :
    KeepsShort (fun o => o.toList.flatMap integers) (optional read) := by
  intro r o hr ho n hn
  cases o with
  | none => cases hn
  | some x =>
    have hx : n ∈ integers x := by simpa using hn
    exact h r x hr (of_optional_eq_some ho) n hx

/-- An integer that may be left out. -/
theorem optional_integer {read : Raw → Checked ℤ} (h : KeepsShort List.singleton read) :
    KeepsShort Option.toList (Field.optional read) := by
  intro r o hr ho n hn
  refine h.optional r o hr ho n ?_
  cases o with
  | none => cases hn
  | some k => exact hn

theorem list (h : KeepsShort integers read) :
    KeepsShort (fun xs => xs.flatMap integers) (list read) := by
  intro r xs hr hxs
  obtain ⟨rs, rfl, hrs⟩ := list_eq_ok.mp hxs
  clear hxs
  cases hr with
  | list hitems =>
    induction hrs with
    | nil => simp
    | cons hread _ ih =>
      obtain ⟨hitem, hitems⟩ := List.forall_mem_cons.mp hitems
      simp only [List.flatMap_cons, List.forall_mem_append]
      exact ⟨h _ _ hitem hread, ih hitems⟩

variable {ms : List (String × Raw)} (hms : ∀ m ∈ ms, m.2.Short) {name : String} {x : α}
include hms

/-- A default holds no integers, so nothing long can come of it. -/
theorem withDefault {default : α} (h : KeepsShort integers read) (hdefault : integers default = [])
    (hx : withDefault ms name default read = .ok x) : ∀ n ∈ integers x, Short n := by
  rcases withDefault_eq_ok.mp hx with ⟨-, rfl⟩ | ⟨r, hr, hx⟩
  · simp [hdefault]
  · exact h r x (hms _ (mem_of_lookup?_eq_some hr)) hx

end KeepsShort

end Field

end VersionedStore
