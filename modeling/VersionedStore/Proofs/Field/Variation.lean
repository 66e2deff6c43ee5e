import VersionedStore.Proofs.Field.Record

/-!
Differences between values that do not matter to a check. What a record is
checked for is a value for each of its fields. So members that are no fields, the
order of members and the earlier ones of members with one name leave no trace,
neither in what a value becomes nor in the issues that are found instead.
-/

namespace VersionedStore

/-- What is expected at a place in a body: a message with its fields, a list of
items, or a value without parts. -/
inductive Shape where
  | message (fields : List (String × Shape))
  | list (item : Shape)
  | plain

namespace Shape

/-- What is expected in a member with a given name, if that is a field. Where no
message is expected, no name is a field. -/
def field? : Shape → String → Option Shape
  | .message fields, name => fields.lookup name
  | _, _ => none

def item : Shape → Shape
  | .list s => s
  | _ => .plain

end Shape

/-- A single difference between two values at a place that does not matter
there: a member that is no field, two neighbours with different names in the
other order, a member in front of another one with its name, or such a difference
inside a member or an item. -/
inductive Variation : Shape → Json → Json → Prop where
  | unknown {s : Shape} {ms ms' : List (String × Json)} {name : String} {j : Json}
    (hname : s.field? name = none) :
    Variation s (.object (ms ++ (name, j) :: ms')) (.object (ms ++ ms'))
  | swapped {s : Shape} {ms ms' : List (String × Json)} {m n : String × Json} (hne : m.1 ≠ n.1) :
    Variation s (.object (ms ++ m :: n :: ms')) (.object (ms ++ n :: m :: ms'))
  | repeated {s : Shape} {ms ms' : List (String × Json)} {name : String} {j : Json}
    (hname : name ∈ ms'.map Prod.fst) :
    Variation s (.object (ms ++ (name, j) :: ms')) (.object (ms ++ ms'))
  | member {s s' : Shape} {ms ms' : List (String × Json)} {name : String} {j k : Json}
    (hname : s.field? name = some s') (h : Variation s' j k) :
    Variation s (.object (ms ++ (name, j) :: ms')) (.object (ms ++ (name, k) :: ms'))
  | item {s : Shape} {js js' : List Json} {j k : Json} (h : Variation s.item j k) :
    Variation s (.array (js ++ j :: js')) (.array (js ++ k :: js'))

namespace Field

variable {α : Type} {s : Shape} {read : Raw → Checked α}

/-- A reader that makes the same of values that differ as a shape allows. -/
def Respects (s : Shape) (read : Raw → Checked α) : Prop :=
  ∀ j k, Variation s j k → read (Raw.ofJson j) = read (Raw.ofJson k)

/-- A reader that looks into neither objects nor arrays. -/
theorem respects_of_flat (hrecord : ∀ ms ms', read (.record ms) = read (.record ms'))
    (hlist : ∀ rs rs', read (.list rs) = read (.list rs')) : Respects s read := by
  intro j k h
  cases h with
  | item => exact hlist _ _
  | _ => exact hrecord _ _

theorem respects_text : Respects s text :=
  respects_of_flat (fun _ _ => rfl) (fun _ _ => rfl)

theorem respects_nonEmptyText : Respects s nonEmptyText :=
  respects_of_flat (fun _ _ => rfl) (fun _ _ => rfl)

theorem respects_integer : Respects s integer :=
  respects_of_flat (fun _ _ => rfl) (fun _ _ => rfl)

theorem respects_integerAbove (bound : ℤ) : Respects s (integerAbove bound) :=
  respects_of_flat (fun _ _ => rfl) (fun _ _ => rfl)

theorem respects_payload (origin : Origin) : Respects s (payload origin) :=
  respects_of_flat (fun _ _ => rfl) (fun _ _ => rfl)

theorem Respects.optional (h : Respects s read) : Respects s (optional read) := by
  intro j k hjk
  have hread := congrArg (Except.map some) (h j k hjk)
  cases hjk <;> exact hread

/-- One element may be replaced by another one that is read alike. -/
theorem elements_congr {r r' : Raw} (h : read r = read r') (i : ℕ) (rs rs' : List Raw) :
    elements read i (rs ++ r :: rs') = elements read i (rs ++ r' :: rs') := by
  induction rs generalizing i with
  | nil => simp only [List.nil_append, elements, h]
  | cons q rs ih => simp only [List.cons_append, elements, ih]

theorem Respects.list (h : Respects s read) : Respects (.list s) (list read) := by
  intro j k hjk
  cases hjk with
  | @item _ js js' j k hitem =>
    simp only [Raw.ofJson, Field.list, ofJsonItems_eq, List.map_append, List.map_cons]
    exact elements_congr (h j k hitem) 0 _ _
  | _ => rfl

/-- Of members with one name, those further back count. -/
theorem lookup?_append (name : String) (ms ms' : List (String × Raw)) :
    lookup? name (ms ++ ms') = (lookup? name ms').or (lookup? name ms) := by
  simp [lookup?, List.find?_append, Option.map_or]

theorem lookup?_cons (name : String) (m : String × Raw) (ms : List (String × Raw)) :
    lookup? name (m :: ms) = (lookup? name ms).or (if m.1 = name then some m.2 else none) := by
  rw [← List.singleton_append, lookup?_append]
  congr 1
  by_cases hm : m.1 = name <;> simp [lookup?, hm]

theorem exists_lookup? {name : String} {ms : List (String × Raw)} (h : name ∈ ms.map Prod.fst) :
    ∃ r, lookup? name ms = some r := by
  induction ms with
  | nil => cases h
  | cons m ms ih =>
    rw [lookup?_cons]
    rcases List.mem_cons.mp h with rfl | h
    · cases lookup? m.1 ms with
      | none => exact ⟨m.2, by simp⟩
      | some r => exact ⟨r, rfl⟩
    · obtain ⟨r, hr⟩ := ih h
      exact ⟨r, by simp [hr]⟩

/-- A difference that a shape allows does not matter to what is read of a field. -/
theorem lookup?_map_eq {s' : Shape} {ms ms' : List (String × Json)}
    (h : Variation s (.object ms) (.object ms')) {name : String} (hname : s.field? name = some s')
    (hread : Respects s' read) :
    (lookup? name (Raw.ofJsonMembers ms)).map read =
      (lookup? name (Raw.ofJsonMembers ms')).map read := by
  cases h with
  | @unknown _ ms ms' other j hother =>
    have hne : other ≠ name := fun heq => by simp [← heq, hother] at hname
    simp only [ofJsonMembers_eq, List.map_append, List.map_cons, lookup?_append, lookup?_cons,
      if_neg hne, Option.or_none]
  | @swapped _ ms ms' m n hne =>
    simp only [ofJsonMembers_eq, List.map_append, List.map_cons, lookup?_append, lookup?_cons]
    by_cases hm : m.1 = name
    · have hn : n.1 ≠ name := fun hn => hne (hm.trans hn.symm)
      simp only [if_neg hn, Option.or_none]
    · simp only [if_neg hm, Option.or_none]
  | @repeated _ ms ms' other j hother =>
    simp only [ofJsonMembers_eq, List.map_append, List.map_cons, lookup?_append, lookup?_cons]
    by_cases heq : other = name
    -- The later member with the name hides the earlier one.
    · subst heq
      obtain ⟨r, hr⟩ : ∃ r, lookup? other (ms'.map fun m => (m.1, Raw.ofJson m.2)) = some r :=
        exists_lookup? (by simpa using hother)
      simp only [hr, Option.some_or]
    · simp only [if_neg heq, Option.or_none]
  | @member _ s'' ms ms' other j k hother hjk =>
    simp only [ofJsonMembers_eq, List.map_append, List.map_cons, lookup?_append, lookup?_cons]
    by_cases heq : other = name
    · subst heq
      obtain rfl := Option.some.inj (hother.symm.trans hname)
      have hvalue := hread j k hjk
      -- The member counts unless a later one has its name.
      cases lookup? other (ms'.map fun m => (m.1, Raw.ofJson m.2)) with
      | none => simp only [if_true, Option.none_or, Option.some_or, Option.map_some, hvalue]
      | some r => rfl
    · simp only [if_neg heq]

theorem required_eq (ms : List (String × Raw)) (name : String) (read : Raw → Checked α) :
    required ms name read =
      Checked.inside (.name name) (((lookup? name ms).map read).getD (fail .missing)) := by
  unfold required
  cases lookup? name ms <;> rfl

theorem withDefault_eq (ms : List (String × Raw)) (name : String) (default : α)
    (read : Raw → Checked α) :
    withDefault ms name default read =
      ((lookup? name ms).map read).elim (.ok default) (Checked.inside (.name name)) := by
  unfold withDefault
  cases lookup? name ms <;> rfl

section Fields

variable {s' : Shape} {ms ms' : List (String × Json)} (h : Variation s (.object ms) (.object ms'))
include h

/-- A field is read alike of objects that vary where it does not look. -/
theorem required_congr {name : String} (hname : s.field? name = some s')
    (hread : Respects s' read) :
    required (Raw.ofJsonMembers ms) name read = required (Raw.ofJsonMembers ms') name read := by
  rw [required_eq, required_eq, lookup?_map_eq h hname hread]

theorem withDefault_congr {name : String} (default : α) (hname : s.field? name = some s')
    (hread : Respects s' read) :
    withDefault (Raw.ofJsonMembers ms) name default read =
      withDefault (Raw.ofJsonMembers ms') name default read := by
  rw [withDefault_eq, withDefault_eq, lookup?_map_eq h hname hread]

end Fields

/-- A record respects its shape if its reader makes the same of objects that vary. -/
theorem respects_record {read : List (String × Raw) → Checked α}
    (hread : ∀ ms ms', Variation s (.object ms) (.object ms') →
      read (Raw.ofJsonMembers ms) = read (Raw.ofJsonMembers ms')) : Respects s (record read) := by
  intro j k h
  cases h with
  | item => rfl
  | unknown hname => exact hread _ _ (.unknown hname)
  | swapped hne => exact hread _ _ (.swapped hne)
  | repeated hname => exact hread _ _ (.repeated hname)
  | member hname h => exact hread _ _ (.member hname h)

end Field

end VersionedStore
