import Mathlib.Data.Int.Notation
import Mathlib.Data.List.Basic
import VersionedStore.Field.Record
import VersionedStore.Field.Scalar

/-!
What checks of values report. A check of a value never reports that a text is no
JSON, wherever the value stands; that is reported of texts alone.
-/

namespace VersionedStore.Field

variable {α β : Type}

/-- No issue of a check is about the text that the value was read from. -/
def AboutValue (x : Checked α) : Prop :=
  ∀ issues, x = .error issues → ∀ i ∈ issues, i.problem ≠ .invalidJson

@[simp] theorem aboutValue_ok (x : α) : AboutValue (.ok x) := nofun

@[simp] theorem aboutValue_fail {p : Problem} :
    AboutValue (fail p : Checked α) ↔ p ≠ .invalidJson := by
  simp [AboutValue, fail]

namespace AboutValue

theorem inside {x : Checked α} (hx : AboutValue x) (step : Field.Step) :
    AboutValue (Checked.inside step x) := by
  intro issues h i hi
  cases x with
  | ok x => cases h
  | error more =>
    obtain rfl := Except.error.inj h
    obtain ⟨i', hi', rfl⟩ := List.mem_map.mp hi
    exact hx more rfl i' hi'

/-- A record reports nothing about its own text if none of its fields does. -/
theorem also {x : Checked α} {f : Checked (α → β)} (hf : AboutValue f) (hx : AboutValue x) :
    AboutValue (Checked.also x f) := by
  intro issues h i hi
  cases f with
  | ok f =>
    cases x with
    | ok x => cases h
    | error more =>
      obtain rfl := Except.error.inj h
      exact hx more rfl i hi
  | error earlier =>
    cases x with
    | ok x =>
      obtain rfl := Except.error.inj h
      exact hf earlier rfl i hi
    | error more =>
      obtain rfl := Except.error.inj h
      rcases List.mem_append.mp hi with hi | hi
      · exact hf earlier rfl i hi
      · exact hx more rfl i hi

theorem map {x : Checked α} (hx : AboutValue x) (f : α → β) : AboutValue (x.map f) := by
  intro issues h i hi
  cases x with
  | ok x => cases h
  | error more =>
    obtain rfl := Except.error.inj h
    exact hx more rfl i hi

end AboutValue

section Readers

variable {read : Raw → Checked α} (hread : ∀ r, AboutValue (read r))
include hread

theorem aboutValue_elements (i : ℕ) (rs : List Raw) : AboutValue (elements read i rs) := by
  induction rs generalizing i with
  | nil => exact aboutValue_ok _
  | cons r rs ih => exact (((hread r).inside _).map _).also (ih (i + 1))

/-- Neither a list nor its elements are about the text of the whole body. -/
theorem aboutValue_list (r : Raw) : AboutValue (list read r) := by
  unfold list
  split
  · exact aboutValue_elements hread 0 _
  · simp

theorem aboutValue_optional (r : Raw) : AboutValue (optional read r) := by
  unfold optional
  split
  · simp
  · exact (hread _).map _

/-- A field that is missing is an issue of the record, not of its text. -/
theorem aboutValue_required (ms : List (String × Raw)) (name : String) :
    AboutValue (required ms name read) := by
  unfold required
  split
  · exact (hread _).inside _
  · exact AboutValue.inside (by simp) _

theorem aboutValue_withDefault (ms : List (String × Raw)) (name : String) (default : α) :
    AboutValue (withDefault ms name default read) := by
  unfold withDefault
  split
  · exact (hread _).inside _
  · simp

end Readers

theorem aboutValue_text (r : Raw) : AboutValue (text r) := by
  unfold text
  repeat' split
  all_goals simp

theorem aboutValue_nonEmptyText (r : Raw) : AboutValue (nonEmptyText r) := by
  have htext := aboutValue_text r
  unfold nonEmptyText
  split
  · split_ifs <;> simp
  · next issues h => exact h ▸ htext

theorem aboutValue_integerOfReal (x : Binary64) : AboutValue (integerOfReal x) := by
  unfold integerOfReal
  repeat' split
  all_goals simp

/-- A text inside a body is no text of a body. -/
theorem aboutValue_integerOfText (s : String) : AboutValue (integerOfText s) := by
  unfold integerOfText
  repeat' split
  all_goals simp

theorem aboutValue_integer (r : Raw) : AboutValue (integer r) := by
  unfold integer
  split
  · simp
  · simp
  · exact aboutValue_integerOfReal _
  · exact aboutValue_integerOfText _
  · split
    · exact aboutValue_integerOfText _
    · simp
  · simp

theorem aboutValue_integerAbove (bound : ℤ) (r : Raw) : AboutValue (integerAbove bound r) := by
  have hinteger := aboutValue_integer r
  unfold integerAbove
  split
  · split_ifs <;> simp
  · next issues h => exact h ▸ hinteger

theorem aboutValue_payload (origin : Origin) (r : Raw) : AboutValue (payload origin r) := by
  unfold payload
  repeat' split
  all_goals simp

end VersionedStore.Field

