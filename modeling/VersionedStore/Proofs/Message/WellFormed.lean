import VersionedStore.Proofs.Field.Record
import VersionedStore.Message.Schema

/-!
What every message satisfies, whether a caller built it or a body was decoded to
it: a request names a store, and a page that is asked for has room for an entry.
The other conditions on fields are part of the types of messages.
-/

namespace VersionedStore.MessageType

open VersionedStore.Field

def WellFormed : (t : MessageType) → t.Body → Prop
  | .getObjectRequest, m => m.storeId ≠ ""
  | .putObjectRequest, m => m.storeId ≠ ""
  | .deleteObjectRequest, m => m.storeId ≠ ""
  | .listKeyVersionsRequest, m => m.storeId ≠ "" ∧ ∀ n, m.pageSize = some n → 0 < n
  | _, _ => True

theorem storeId_ne_empty {ms : List (String × Raw)} {s : String}
    (h : required ms "store_id" nonEmptyText = .ok s) : s ≠ "" := by
  obtain ⟨r, -, hr⟩ := required_eq_ok.mp h
  exact nonEmptyText_ne_empty hr

/-- A page of no keys cannot be asked for. -/
theorem pageSize_pos {ms : List (String × Raw)} {size : Option ℤ}
    (h : withDefault ms "page_size" none (optional (integerAbove 0)) = .ok size) :
    ∀ n, size = some n → 0 < n := by
  intro n hn
  subst hn
  rcases withDefault_eq_ok.mp h with ⟨-, hnone⟩ | ⟨r, -, hr⟩
  · cases hnone
  · exact lt_of_integerAbove (of_optional_eq_some hr)

/-- The checks of a type are what makes its messages well-formed. -/
theorem wellFormed_of_readMembers {origin : Origin} {ms : List (String × Raw)} {t : MessageType}
    {m : t.Body} (h : readMembers origin ms t = .ok m) : t.WellFormed m := by
  cases t with
  | getObjectRequest =>
    simp only [readMembers, Checked.also_eq_ok] at h
    obtain ⟨_, _, ⟨_, _, ⟨⟩, hstore, rfl⟩, -, rfl⟩ := h
    exact storeId_ne_empty hstore
  | putObjectRequest =>
    simp only [readMembers, Checked.also_eq_ok] at h
    obtain ⟨_, _, ⟨_, _, ⟨_, _, ⟨_, _, ⟨⟩, hstore, rfl⟩, -, rfl⟩, -, rfl⟩, -, rfl⟩ := h
    exact storeId_ne_empty hstore
  | deleteObjectRequest =>
    simp only [readMembers, Checked.also_eq_ok] at h
    obtain ⟨_, _, ⟨_, _, ⟨_, _, ⟨⟩, hstore, rfl⟩, -, rfl⟩, -, rfl⟩ := h
    exact storeId_ne_empty hstore
  | listKeyVersionsRequest =>
    simp only [readMembers, Checked.also_eq_ok] at h
    obtain ⟨_, _, ⟨_, _, ⟨_, _, ⟨_, _, ⟨⟩, hstore, rfl⟩, -, rfl⟩, hsize, rfl⟩, -, rfl⟩ := h
    exact ⟨storeId_ne_empty hstore, pageSize_pos hsize⟩
  | _ => exact trivial

theorem wellFormed_of_read {origin : Origin} {t : MessageType} {r : Raw} {m : t.Body}
    (h : t.read origin r = .ok m) : t.WellFormed m := by
  obtain ⟨ms, -, hms⟩ := record_eq_ok.mp h
  exact wellFormed_of_readMembers hms

end VersionedStore.MessageType
