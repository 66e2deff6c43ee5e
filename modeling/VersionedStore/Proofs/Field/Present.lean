import VersionedStore.Proofs.Field.Variation

/-!
Records that are put together from fields, some of which may be left out, and
what the checks of numbers make of a number. A field that is left out stands at
its default; a number within its bounds is kept as it is.
-/

namespace VersionedStore.Field

variable {name : String} {r : Option Raw} {fields : List (String × Option Raw)}

def present (fields : List (String × Option Raw)) : List (String × Raw) :=
  fields.filterMap fun (name, r) => r.map fun r => (name, r)

theorem lookup?_eq_none {ms : List (String × Raw)} (h : name ∉ ms.map Prod.fst) :
    lookup? name ms = none := by
  rw [Option.eq_none_iff_forall_ne_some]
  intro r hr
  exact h (List.mem_map_of_mem (mem_of_lookup?_eq_some hr))

theorem mem_names_of_present (h : name ∈ (present fields).map Prod.fst) :
    name ∈ fields.map Prod.fst := by
  obtain ⟨m, hm, rfl⟩ := List.mem_map.mp h
  obtain ⟨⟨other, r⟩, hfield, hr⟩ := List.mem_filterMap.mp hm
  obtain ⟨x, -, rfl⟩ := Option.map_eq_some_iff.mp hr
  exact List.mem_map_of_mem hfield

/-- A field of a record is what it was said to be, if no two have one name. -/
theorem lookup?_present (hnames : (fields.map Prod.fst).Nodup) (hmem : (name, r) ∈ fields) :
    lookup? name (present fields) = r := by
  induction fields with
  | nil => cases hmem
  | cons field fields ih =>
    obtain ⟨other, given⟩ := field
    obtain ⟨hother, hrest⟩ := List.nodup_cons.mp hnames
    rcases List.mem_cons.mp hmem with heq | hfield
    · obtain ⟨rfl, rfl⟩ := Prod.mk.inj heq
      have hnone : lookup? name (present fields) = none :=
        lookup?_eq_none fun h => hother (mem_names_of_present h)
      cases r with
      | none => exact hnone
      | some x =>
        have hcons : present ((name, some x) :: fields) = (name, x) :: present fields := rfl
        rw [hcons, lookup?_cons, hnone, if_pos rfl, Option.none_or]
    · have hne : other ≠ name := by
        rintro rfl
        exact hother (List.mem_map.mpr ⟨_, hfield, rfl⟩)
      cases given with
      | none => exact ih hrest hfield
      | some x =>
        have hcons : present ((other, some x) :: fields) = (other, x) :: present fields := rfl
        rw [hcons, lookup?_cons, ih hrest hfield, if_neg hne, Option.or_none]

/-- A value that is kept together with its bound. -/
theorem dite_eq_ok {α : Type} {P : α → Prop} [DecidablePred P] {x : α} {y : { x // P x }}
    {p : Problem} : (if h : P x then .ok ⟨x, h⟩ else fail p : Checked { x // P x }) = .ok y ↔
      y.val = x := by
  constructor
  · intro h
    split_ifs at h
    · rw [← Except.ok.inj h]
    · exact absurd h fail_ne_ok
  · rintro rfl
    rw [dif_pos y.property]

def Takes {α : Type} (r : Option Raw) (read : Raw → Checked α) (default y : α) : Prop :=
  (r = none ∧ default = y) ∨ ∃ raw, r = some raw ∧ read raw = .ok y

/-- Under distinct names, a field that may be left out becomes what was given, or its
default. -/
theorem withDefault_present_eq_ok {α : Type} (hnames : (fields.map Prod.fst).Nodup)
    (hmem : (name, r) ∈ fields) {default : α} {read : Raw → Checked α} {y : α} :
    withDefault (present fields) name default read = .ok y ↔ Takes r read default y := by
  rw [withDefault_eq_ok, lookup?_present hnames hmem, Takes]

theorem required_present_eq_ok {α : Type} (hnames : (fields.map Prod.fst).Nodup) {raw : Raw}
    (hmem : (name, some raw) ∈ fields) {read : Raw → Checked α} {y : α} :
    required (present fields) name read = .ok y ↔ read raw = .ok y := by
  rw [required_eq_ok, lookup?_present hnames hmem]
  simp

/-- The bound of a field is the proof that its value carries. -/
theorem realAboveZero_real_eq_ok {x : Binary64} {y : PositiveReal} :
    realAboveZero (.real x) = .ok y ↔ y.val = x :=
  dite_eq_ok (P := fun x => Binary64.zero.lt x = true)

theorem realAtLeastZero_real_eq_ok {x : Binary64} {y : NonNegativeReal} :
    realAtLeastZero (.real x) = .ok y ↔ y.val = x :=
  dite_eq_ok (P := fun x => Binary64.zero.le x = true)

theorem integerAtLeast_integer_eq_ok {bound n : ℤ} {m : { m : ℤ // bound ≤ m }} :
    integerAtLeast bound (.integer n) = .ok m ↔ m.val = n := dite_eq_ok

def rawOption {α : Type} (wrap : α → Raw) : Option α → Raw
  | none => .none
  | some x => wrap x

theorem optional_realAtLeastZero_eq_ok {x : Option Binary64} {y : Option NonNegativeReal} :
    optional realAtLeastZero (rawOption .real x) = .ok y ↔ y.map Subtype.val = x := by
  cases x with
  | none =>
    have hread : optional realAtLeastZero .none = .ok none := rfl
    rw [rawOption, hread, Option.map_eq_none_iff, Except.ok.injEq, eq_comm]
  | some x =>
    have hread : optional realAtLeastZero (.real x) = (realAtLeastZero (.real x)).map some := rfl
    rw [rawOption, hread, Checked.map_eq_ok, Option.map_eq_some_iff]
    constructor
    · rintro ⟨z, hz, rfl⟩
      exact ⟨z, rfl, realAtLeastZero_real_eq_ok.mp hz⟩
    · rintro ⟨z, rfl, hz⟩
      exact ⟨z, realAtLeastZero_real_eq_ok.mpr hz, rfl⟩

end VersionedStore.Field
