import VersionedStore.Proofs.Field.Record

/-!
What checks report, place by place. A whole reports the issues of its parts, in the
order of the parts and each placed inside its part; so what it reports of a place in
a part is what the check of the part reports of this place.
-/

namespace VersionedStore.Field

variable {α β : Type}

def issues : Checked α → List Issue
  | .ok _ => []
  | .error issues => issues

def problemsAt (place : List Step) (issues : List Issue) : List Problem :=
  (issues.filter fun i => i.place = place).map (·.problem)

section Issues

variable {step : Step} {place : List Step}

@[simp] theorem issues_ok (x : α) : issues (.ok x) = [] := rfl

/-- The issues of the earlier parts come first. -/
theorem issues_also (x : Checked α) (f : Checked (α → β)) :
    issues (Checked.also x f) = issues f ++ issues x := by
  cases f <;> cases x <;> simp [Checked.also, issues]

theorem issues_inside (step : Step) (x : Checked α) :
    issues (Checked.inside step x) =
      (issues x).map fun i => { i with place := step :: i.place } := by
  cases x <;> rfl

theorem issues_map (f : α → β) (x : Checked α) : issues (x.map f) = issues x := by
  cases x <;> rfl

@[simp] theorem problemsAt_nil (place : List Step) : problemsAt place [] = [] := rfl

@[simp] theorem problemsAt_append (place : List Step) (is js : List Issue) :
    problemsAt place (is ++ js) = problemsAt place is ++ problemsAt place js := by
  simp [problemsAt]

theorem problemsAt_flatMap {γ : Type} (xs : List γ) (f : γ → List Issue) :
    problemsAt place (xs.flatMap f) = xs.flatMap fun x => problemsAt place (f x) := by
  rw [problemsAt, List.filter_flatMap, List.map_flatMap]
  rfl

@[simp] theorem problemsAt_also (x : Checked α) (f : Checked (α → β)) :
    problemsAt place (issues (Checked.also x f)) =
      problemsAt place (issues f) ++ problemsAt place (issues x) := by
  rw [issues_also, problemsAt_append]

@[simp] theorem problemsAt_map (f : α → β) (x : Checked α) :
    problemsAt place (issues (x.map f)) = problemsAt place (issues x) := by
  rw [issues_map]

/-- Of a place in a part the part alone reports. -/
theorem problemsAt_inside (step' : Step) (x : Checked α) :
    problemsAt (step :: place) (issues (Checked.inside step' x)) =
      if step' = step then problemsAt place (issues x) else [] := by
  rw [issues_inside, problemsAt, List.filter_map, List.map_map]
  split_ifs with hstep
  · subst hstep
    simp [problemsAt, Function.comp_def]
  · simp [hstep, Function.comp_def]

end Issues

section Readers

variable {read : Raw → Checked α} {ms : List (String × Raw)} {place : List Step}
  {name name' : String}

/-- Of a place in a field nothing is reported by the checks of other fields. -/
theorem problemsAt_required_of_ne (h : name ≠ name') :
    problemsAt (.name name' :: place) (issues (required ms name read)) = [] := by
  rw [required, problemsAt_inside, if_neg (by simpa using h)]

/-- A field reports nothing about the place of another one. -/
theorem problemsAt_withDefault_of_ne (h : name ≠ name') {default : α} :
    problemsAt (.name name' :: place) (issues (withDefault ms name default read)) = [] := by
  unfold withDefault
  split
  · rw [problemsAt_inside, if_neg (by simpa using h)]
  · rfl

/-- Of a place in a field that is given, the check of its value reports. -/
theorem problemsAt_withDefault {r : Raw} (h : lookup? name ms = some r) {default : α} :
    problemsAt (.name name :: place) (issues (withDefault ms name default read)) =
      problemsAt place (issues (read r)) := by
  rw [withDefault, h]
  dsimp only
  rw [problemsAt_inside, if_pos rfl]

/-- The elements from an index on report nothing about those before it. -/
theorem problemsAt_elements_of_lt {i k : ℕ} (h : i < k) (rs : List Raw) :
    problemsAt (.index i :: place) (issues (elements read k rs)) = [] := by
  induction rs generalizing k with
  | nil => rfl
  | cons r rs ih =>
    have hne : (Step.index k : Step) ≠ .index i := by
      simpa using (Nat.ne_of_lt h).symm
    rw [elements, problemsAt_also, problemsAt_map, problemsAt_inside, if_neg hne, ih (by omega)]
    rfl

/-- Of a place in an element of a list, the check of this element reports. -/
theorem problemsAt_elements {i k : ℕ} {r : Raw} {rs : List Raw} (h : rs[i]? = some r) :
    problemsAt (.index (k + i) :: place) (issues (elements read k rs)) =
      problemsAt place (issues (read r)) := by
  induction rs generalizing i k with
  | nil => cases h
  | cons q rs ih =>
    rw [elements, problemsAt_also, problemsAt_map, problemsAt_inside]
    cases i with
    | zero =>
      obtain rfl : q = r := by simpa using h
      rw [Nat.add_zero, if_pos rfl, problemsAt_elements_of_lt (Nat.lt_succ_self k), List.append_nil]
    | succ i =>
      have hne : (Step.index k : Step) ≠ .index (k + (i + 1)) := by simp
      rw [if_neg hne, ← ih (k := k + 1) (by simpa using h), Nat.add_right_comm, Nat.add_assoc]
      rfl

end Readers

end VersionedStore.Field
