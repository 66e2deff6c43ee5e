import Mathlib.Data.List.Basic
import VersionedStore.Url.Basic

/-!
Paths with a segment behind them. The steps of a path are resolved from its front
and never reach a segment that is added at its end, so that the normal form of the
longer path is the normal form of the path and that segment.
-/

namespace VersionedStore.Url

structure Plain (segment : List Char) : Prop where
  whole : '/' ∉ segment
  here : segment ≠ ['.']
  up : segment ≠ ['.', '.']

theorem cutAt_ne_nil (sep : Char) (cs : List Char) : cutAt sep cs ≠ [] := by
  cases cs with
  | nil => simp [cutAt]
  | cons c cs =>
    unfold cutAt
    split_ifs
    · simp
    · split <;> simp

/-- A path is cut at the slash between its parts as it is in each of them. -/
theorem cutAt_append (sep : Char) (cs ds : List Char) :
    cutAt sep (cs ++ sep :: ds) = cutAt sep cs ++ cutAt sep ds := by
  induction cs with
  | nil => simp [cutAt]
  | cons c cs ih =>
    rw [List.cons_append, cutAt, cutAt, ih]
    split_ifs with hc
    · rfl
    · obtain ⟨part, parts, hparts⟩ := List.exists_cons_of_ne_nil (cutAt_ne_nil sep cs)
      rw [hparts]
      rfl

theorem cutAt_of_not_mem {sep : Char} {cs : List Char} (h : sep ∉ cs) : cutAt sep cs = [cs] := by
  induction cs with
  | nil => rfl
  | cons c cs ih =>
    rw [List.mem_cons, not_or] at h
    rw [cutAt, if_neg (Ne.symm h.1), ih h.2]

theorem joinWith_append_singleton (sep : Char) {parts : List (List Char)} (hne : parts ≠ [])
    (part : List Char) : joinWith sep (parts ++ [part]) = joinWith sep parts ++ sep :: part := by
  induction parts with
  | nil => exact absurd rfl hne
  | cons first parts ih =>
    cases parts with
    | nil => rfl
    | cons second parts =>
      have hrest := ih (by simp)
      rw [List.cons_append] at hrest ⊢
      simp only [List.cons_append, joinWith, List.append_assoc] at hrest ⊢
      rw [hrest]

/-- A plain segment is kept where it stands. -/
theorem walk_of_plain (done : List (List Char)) {segment : List Char} (h : Plain segment) :
    walk done segment = segment :: done := by
  rw [walk, if_neg h.here, if_neg h.up]

/-- The root is never left: the first segment of an absolute path is empty and stays
where it is. -/
theorem getLast?_walk {done : List (List Char)} (h : done.getLast? = some [])
    (segment : List Char) : (walk done segment).getLast? = some [] := by
  obtain ⟨first, done, rfl⟩ := List.exists_cons_of_ne_nil
    (List.ne_nil_of_mem (List.mem_of_getLast? h))
  unfold walk
  split_ifs with hhere hup hroot
  · exact h
  · exact h
  · cases done with
    | nil => exact absurd (by simpa using h) hroot
    | cons second done => simpa [List.getLast?_cons_cons] using h
  · simpa [List.getLast?_cons_cons] using h

/-- A path stays rooted: no step leads up from its root. -/
theorem getLast?_foldl_walk (segments : List (List Char)) {done : List (List Char)}
    (h : done.getLast? = some []) : (segments.foldl walk done).getLast? = some [] := by
  induction segments generalizing done with
  | nil => exact h
  | cons segment segments ih => exact ih (getLast?_walk h segment)

theorem foldl_walk_ne_nil {cs : List Char} (hrooted : ∀ c ∈ cs.head?, c = '/') :
    (cutAt '/' cs).foldl walk [] ≠ [] := by
  have hfirst : ∃ segments, cutAt '/' cs = [] :: segments := by
    cases cs with
    | nil => exact ⟨[], rfl⟩
    | cons c cs =>
      obtain rfl := hrooted c rfl
      exact ⟨cutAt '/' cs, by rw [cutAt, if_pos rfl]⟩
  obtain ⟨segments, hsegments⟩ := hfirst
  have hwalk : walk [] ([] : List Char) = [[]] := by decide
  rw [hsegments, List.foldl_cons, hwalk]
  have hlast : (segments.foldl walk [[]]).getLast? = some [] := getLast?_foldl_walk segments rfl
  intro hnil
  rw [hnil] at hlast
  cases hlast

/-- A segment at the end of a path stays at the end when the path is resolved. -/
theorem normalPath_append {cs segment : List Char} (hrooted : ∀ c ∈ cs.head?, c = '/')
    (h : Plain segment) : normalPath (cs ++ '/' :: segment) = normalPath cs ++ '/' :: segment := by
  have hcut : cutAt '/' (cs ++ '/' :: segment) = cutAt '/' cs ++ [segment] := by
    rw [cutAt_append, cutAt_of_not_mem h.whole]
  have hsteps : ((cutAt '/' cs ++ [segment]).contains ['.'] ||
      (cutAt '/' cs ++ [segment]).contains ['.', '.']) =
      ((cutAt '/' cs).contains ['.'] || (cutAt '/' cs).contains ['.', '.']) := by
    simp [Ne.symm h.here, Ne.symm h.up]
  have hwalk : ((cutAt '/' cs ++ [segment]).foldl walk []).reverse =
      ((cutAt '/' cs).foldl walk []).reverse ++ [segment] := by
    rw [List.foldl_append, List.foldl_cons, List.foldl_nil, walk_of_plain _ h, List.reverse_cons]
  have hjoin := joinWith_append_singleton '/'
    (List.reverse_ne_nil_iff.mpr (foldl_walk_ne_nil hrooted)) segment
  unfold normalPath
  simp only [hcut, hsteps, hwalk, hjoin]
  split_ifs <;> rfl

end VersionedStore.Url
