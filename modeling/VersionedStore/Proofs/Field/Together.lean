import VersionedStore.Proofs.Field.Issues

/-!
Checks of a whole as checks of its parts. What a check makes of a value is left out
here; what remains is whether it passes, and what it reports if it does not. Parts that
are checked together pass just if each of them passes, and report what each of them
reports, in the order of the parts.
-/

namespace VersionedStore.Field

variable {α β : Type}

/-- Whether a check passes, and what it reports if it does not. -/
def outcome (x : Checked α) : Checked Unit := x.map fun _ => ()

def both (x y : Checked Unit) : Checked Unit := Checked.also y (x.map fun _ _ => ())

def together : List (Checked Unit) → Checked Unit
  | [] => .ok ()
  | x :: xs => both x (together xs)

/-- The outcome forgets the value of a check, but not whether there is one. -/
theorem outcome_eq_ok_iff {x : Checked α} : outcome x = .ok () ↔ ∃ a, x = .ok a := by
  rw [outcome, Checked.map_eq_ok]
  simp

@[simp] theorem issues_outcome (x : Checked α) : issues (outcome x) = issues x :=
  issues_map _ x

@[simp] theorem outcome_map (f : α → β) (x : Checked α) : outcome (x.map f) = outcome x := by
  cases x <;> rfl

@[simp] theorem outcome_self (x : Checked Unit) : outcome x = x := by
  cases x <;> rfl

section Both

variable (x y z : Checked Unit)

@[simp] theorem ok_both : both (.ok ()) x = x := by
  cases x <;> rfl

@[simp] theorem both_ok : both x (.ok ()) = x := by
  cases x <;> rfl

theorem both_assoc : both (both x y) z = both x (both y z) := by
  cases x <;> cases y <;> cases z <;> simp [both, Checked.also, Except.map]

theorem issues_both : issues (both x y) = issues x ++ issues y := by
  rw [both, issues_also, issues_map]

variable {x y}

/-- Two checks pass together just if each of them does. -/
theorem both_eq_ok_iff : both x y = .ok () ↔ x = .ok () ∧ y = .ok () := by
  cases x <;> cases y <;> simp [both, Checked.also, Except.map]

end Both

theorem together_concat (xs : List (Checked Unit)) (x : Checked Unit) :
    together (xs ++ [x]) = both (together xs) x := by
  induction xs with
  | nil => simp [together]
  | cons y xs ih => rw [List.cons_append, together, ih, together, both_assoc]

/-- Checks pass together just if all of them do. -/
theorem together_eq_ok_iff {xs : List (Checked Unit)} :
    together xs = .ok () ↔ ∀ x ∈ xs, x = .ok () := by
  induction xs with
  | nil => simp [together]
  | cons x xs ih => rw [together, both_eq_ok_iff, ih, List.forall_mem_cons]

/-- Checks report together what each of them reports, in order. -/
theorem issues_together (xs : List (Checked Unit)) :
    issues (together xs) = xs.flatMap issues := by
  induction xs with
  | nil => rfl
  | cons x xs ih => rw [together, issues_both, ih, List.flatMap_cons]

section Readers

variable {read : Raw → Checked α} {ms : List (String × Raw)} {name : String}

theorem outcome_also (x : Checked α) (f : Checked (α → β)) :
    outcome (Checked.also x f) = both (outcome f) (outcome x) := by
  cases f <;> cases x <;> rfl

theorem outcome_inside (step : Step) (x : Checked α) :
    outcome (Checked.inside step x) = Checked.inside step (outcome x) := by
  cases x <;> rfl

/-- A further part of a whole is checked behind those that it has already. -/
theorem outcome_also_together {x : Checked α} {f : Checked (α → β)} {xs : List (Checked Unit)}
    (h : outcome f = together xs) : outcome (Checked.also x f) = together (xs ++ [outcome x]) := by
  rw [outcome_also, h, together_concat]

theorem outcome_required :
    outcome (required ms name read) = required ms name fun r => outcome (read r) := by
  rw [required, outcome_inside, required]
  cases lookup? name ms <;> rfl

theorem outcome_withDefault (default : α) :
    outcome (withDefault ms name default read) =
      withDefault ms name () fun r => outcome (read r) := by
  unfold withDefault
  cases lookup? name ms with
  | none => rfl
  | some r => exact outcome_inside _ _

/-- The elements of a list are its parts, each with its index. -/
theorem outcome_elements (k : ℕ) (rs : List Raw) :
    outcome (elements read k rs) =
      together ((rs.zipIdx k).map fun r => Checked.inside (.index r.2) (outcome (read r.1))) := by
  induction rs generalizing k with
  | nil => rfl
  | cons r rs ih =>
    rw [elements, outcome_also, outcome_map, outcome_inside, ih, List.zipIdx_cons, List.map_cons,
      together]

end Readers

end VersionedStore.Field
