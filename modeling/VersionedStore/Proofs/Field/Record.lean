import Mathlib.Data.Int.Notation
import Mathlib.Data.List.Basic
import VersionedStore.Field.Scalar
import VersionedStore.Field.Record

/-!
When checks succeed. A record is accepted exactly if each of its fields is, and
what it becomes is put together from what the fields become.
-/

namespace VersionedStore.Field

variable {α β : Type}

theorem ofJsonItems_eq (js : List Json) : Raw.ofJsonItems js = js.map Raw.ofJson := by
  induction js with
  | nil => rfl
  | cons j js ih => rw [Raw.ofJsonItems, ih, List.map_cons]

theorem ofJsonMembers_eq (ms : List (String × Json)) :
    Raw.ofJsonMembers ms = ms.map fun m => (m.1, Raw.ofJson m.2) := by
  induction ms with
  | nil => rfl
  | cons m ms ih => rw [Raw.ofJsonMembers, ih, List.map_cons]

theorem fail_ne_ok {p : Problem} {x : α} : fail p ≠ .ok x := by
  simp [fail]

namespace Checked

/-- A record passes just if all of its parts do. -/
theorem also_eq_ok {x : Checked α} {f : Checked (α → β)} {y : β} :
    Checked.also x f = .ok y ↔ ∃ g a, f = .ok g ∧ x = .ok a ∧ g a = y := by
  cases f <;> cases x <;> simp [Checked.also]

theorem inside_eq_ok {step : Step} {x : Checked α} {y : α} :
    Checked.inside step x = .ok y ↔ x = .ok y := by
  cases x <;> simp [Checked.inside]

theorem map_eq_ok {f : α → β} {x : Checked α} {y : β} :
    Except.map f x = .ok y ↔ ∃ a, x = .ok a ∧ f a = y := by
  cases x <;> simp [Except.map]

theorem mapError_eq_ok {ε : Type} {f : List Issue → ε} {x : Checked α} {y : α} :
    x.mapError f = .ok y ↔ x = .ok y := by
  cases x <;> simp [Except.mapError]

theorem bind_eq_ok {ε α β : Type} {x : Except ε α} {f : α → Except ε β} {b : β} :
    (x >>= f) = .ok b ↔ ∃ a, x = .ok a ∧ f a = .ok b := by
  cases x <;> simp [bind, Except.bind]

/-- A sequence of checks fails where its first failing check does. -/
theorem bind_eq_error {ε α β : Type} {x : Except ε α} {f : α → Except ε β} {e : ε} :
    (x >>= f) = .error e ↔ x = .error e ∨ ∃ a, x = .ok a ∧ f a = .error e := by
  cases x <;> simp [bind, Except.bind]

end Checked

theorem record_eq_ok {read : List (String × Raw) → Checked α} {r : Raw} {y : α} :
    record read r = .ok y ↔ ∃ ms, r = .record ms ∧ read ms = .ok y := by
  cases r <;> simp [record, fail]

theorem required_eq_ok {ms : List (String × Raw)} {name : String} {read : Raw → Checked α}
    {y : α} : required ms name read = .ok y ↔ ∃ r, lookup? name ms = some r ∧ read r = .ok y := by
  rw [required, Checked.inside_eq_ok]
  cases lookup? name ms <;> simp [fail]

/-- The default is taken of a field that is left out, and never of one that fails. -/
theorem withDefault_eq_ok {ms : List (String × Raw)} {name : String} {default : α}
    {read : Raw → Checked α} {y : α} :
    withDefault ms name default read = .ok y ↔
      (lookup? name ms = none ∧ default = y) ∨ ∃ r, lookup? name ms = some r ∧ read r = .ok y := by
  unfold withDefault
  cases lookup? name ms <;> simp [Checked.inside_eq_ok]

theorem of_optional_eq_some {read : Raw → Checked α} {r : Raw} {a : α}
    (h : optional read r = .ok (some a)) : read r = .ok a := by
  cases r with
  | none => simp [optional] at h
  | _ =>
    obtain ⟨b, hb, hba⟩ := Checked.map_eq_ok.mp h
    obtain rfl := Option.some.inj hba
    exact hb

theorem eq_none_of_optional {read : Raw → Checked α} {r : Raw}
    (h : optional read r = .ok none) : r = .none := by
  cases r with
  | none => rfl
  | _ =>
    obtain ⟨_, -, hb⟩ := Checked.map_eq_ok.mp h
    cases hb

theorem optional_eq_ok_some {read : Raw → Checked α} {r : Raw} {a : α} (h : read r = .ok a)
    (hne : r ≠ .none) : optional read r = .ok (some a) := by
  cases r with
  | none => exact absurd rfl hne
  | _ => exact Checked.map_eq_ok.mpr ⟨a, h, rfl⟩

/-- A list is read element by element. -/
theorem elements_ok {read : Raw → Checked α} (i : ℕ) {rs : List Raw} {xs : List α}
    (h : List.Forall₂ (fun r x => read r = .ok x) rs xs) : elements read i rs = .ok xs := by
  induction h generalizing i with
  | nil => rfl
  | cons hr _ ih => simp [elements, hr, ih, Checked.inside, Checked.also, Except.map]

/-- What a list is read as has been read of its elements one by one. -/
theorem forall₂_of_elements {read : Raw → Checked α} {i : ℕ} {rs : List Raw} {xs : List α}
    (h : elements read i rs = .ok xs) : List.Forall₂ (fun r x => read r = .ok x) rs xs := by
  induction rs generalizing i xs with
  | nil =>
    obtain rfl := Except.ok.inj h
    exact .nil
  | cons r rs ih =>
    simp only [elements, Checked.also_eq_ok, Checked.map_eq_ok, Checked.inside_eq_ok] at h
    obtain ⟨_, ys, ⟨x, hx, rfl⟩, hys, rfl⟩ := h
    exact .cons hx (ih hys)

/-- A list passes just if each of its elements does, in order. -/
theorem list_eq_ok {read : Raw → Checked α} {r : Raw} {xs : List α} :
    list read r = .ok xs ↔
      ∃ rs, r = .list rs ∧ List.Forall₂ (fun r x => read r = .ok x) rs xs := by
  constructor
  · intro h
    cases r with
    | list rs => exact ⟨rs, rfl, forall₂_of_elements h⟩
    | _ => exact absurd h fail_ne_ok
  · intro h
    obtain ⟨rs, rfl, hrs⟩ := h
    exact elements_ok 0 hrs

/-- A list of values is read back if each of them is. -/
theorem list_map {read : Raw → Checked α} {wrap : α → Raw} (xs : List α)
    (hread : ∀ x, read (wrap x) = .ok x) : list read (.list (xs.map wrap)) = .ok xs := by
  refine list_eq_ok.mpr ⟨_, rfl, ?_⟩
  induction xs with
  | nil => exact .nil
  | cons x xs ih => exact .cons (hread x) ih

theorem mem_of_lookup?_eq_some {name : String} {ms : List (String × Raw)} {r : Raw}
    (h : lookup? name ms = some r) : (name, r) ∈ ms := by
  obtain ⟨m, hm, rfl⟩ := Option.map_eq_some_iff.mp h
  have hname : m.1 = name := by simpa using List.find?_some hm
  subst hname
  exact List.mem_reverse.mp (List.mem_of_find?_eq_some hm)

theorem nonEmptyText_ne_empty {r : Raw} {s : String} (h : nonEmptyText r = .ok s) : s ≠ "" := by
  unfold nonEmptyText at h
  split at h
  · split_ifs at h with hs
    · exact absurd h fail_ne_ok
    · obtain rfl := Except.ok.inj h
      simpa using hs
  · cases h

/-- The bound itself is not above the bound. -/
theorem lt_of_integerAbove {bound n : ℤ} {r : Raw} (h : integerAbove bound r = .ok n) :
    bound < n := by
  unfold integerAbove at h
  split at h
  · split_ifs at h with hn
    · obtain rfl := Except.ok.inj h
      exact hn
    · exact absurd h fail_ne_ok
  · cases h

end VersionedStore.Field
