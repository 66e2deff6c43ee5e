import Mathlib.Data.List.DropRight
import Mathlib.Data.List.TakeDrop
import VersionedStore.Text.Blank

/-!
Texts cut at the places where a class of characters begins or ends. Trimming the
end of a text leaves a prefix of it, which no longer ends in the class; what goes
before a character outside the class is never touched.
-/

namespace VersionedStore.Text

variable {p : Char → Bool}

theorem trimEnd_eq_rdropWhile (p : Char → Bool) (cs : List Char) :
    trimEnd p cs = cs.rdropWhile p := rfl

/-- Trimming leaves a front of the text. -/
theorem isPrefix_trimEnd (p : Char → Bool) (cs : List Char) : trimEnd p cs <+: cs := by
  rw [trimEnd_eq_rdropWhile]
  exact List.rdropWhile_prefix p cs

theorem mem_of_mem_trimEnd {cs : List Char} {c : Char} (h : c ∈ trimEnd p cs) : c ∈ cs :=
  (isPrefix_trimEnd p cs).subset h

theorem length_trimEnd_le (p : Char → Bool) (cs : List Char) :
    (trimEnd p cs).length ≤ cs.length :=
  (isPrefix_trimEnd p cs).length_le

/-- A text starts with what is left of it, unless nothing is. -/
theorem mem_head?_of_trimEnd {cs : List Char} {c : Char} (h : c ∈ (trimEnd p cs).head?) :
    c ∈ cs.head? := by
  obtain ⟨rest, hrest⟩ := isPrefix_trimEnd p cs
  rw [← hrest]
  exact List.mem_head?_append_of_mem_head? h

/-- What is left of a text ends outside the class. -/
theorem not_of_getLast?_trimEnd {cs : List Char} {c : Char} (h : c ∈ (trimEnd p cs).getLast?) :
    p c = false := by
  rw [trimEnd_eq_rdropWhile] at h
  obtain ⟨hne, rfl⟩ := List.mem_getLast?_eq_getLast h
  exact Bool.eq_false_iff.mpr (List.rdropWhile_last_not p cs hne)

/-- What is taken from the end of a text is nothing but repetitions of one character. -/
theorem exists_eq_trimEnd_append (c : Char) (cs : List Char) :
    ∃ n, cs = trimEnd (· == c) cs ++ List.replicate n c := by
  have htaken : ∀ d ∈ cs.rtakeWhile (· == c), d = c :=
    fun _ hd => beq_iff_eq.mp (List.mem_rtakeWhile_imp (p := (· == c)) hd)
  refine ⟨(cs.rtakeWhile (· == c)).length, ?_⟩
  rw [← List.eq_replicate_of_mem htaken, trimEnd_eq_rdropWhile]
  exact List.rdropWhile_append_rtakeWhile.symm

@[simp] theorem trimEnd_trimEnd (p : Char → Bool) (cs : List Char) :
    trimEnd p (trimEnd p cs) = trimEnd p cs := by
  simp only [trimEnd_eq_rdropWhile]
  exact List.rdropWhile_idempotent p cs

/-- Nothing is taken from what goes before a character outside the class. -/
theorem trimEnd_append_cons (front rest : List Char) {c : Char} (h : p c = false) :
    trimEnd p (front ++ c :: rest) = front ++ c :: trimEnd p rest := by
  induction rest using List.reverseRecOn with
  | nil => exact trimEnd_append_of_neg front h
  | append_singleton rest d ih =>
    rw [← List.cons_append, ← List.append_assoc]
    cases hd : p d with
    | true => rw [trimEnd_append_of_pos _ hd, trimEnd_append_of_pos _ hd, ih]
    | false =>
      rw [trimEnd_append_of_neg _ hd, trimEnd_append_of_neg _ hd, ← List.cons_append,
        List.append_assoc]

/-- What is trimmed off a text is in the class. -/
theorem exists_eq_trim_append (p : Char → Bool) (cs : List Char) :
    ∃ g g', (∀ c ∈ g, p c = true) ∧ (∀ c ∈ g', p c = true) ∧ cs = g ++ trim p cs ++ g' := by
  refine ⟨cs.takeWhile p, (cs.dropWhile p).rtakeWhile p, fun _ hc => List.mem_takeWhile_imp hc,
    fun _ hc => List.mem_rtakeWhile_imp hc, ?_⟩
  rw [trim, trimEnd_eq_rdropWhile, List.append_assoc, List.rdropWhile_append_rtakeWhile,
    List.takeWhile_append_dropWhile]

/-- A text that starts with characters outside the class loses none of these. -/
theorem trim_append_of_neg {front : List Char} (hne : front ≠ []) (h : ∀ c ∈ front, p c = false)
    (rest : List Char) : trim p (front ++ rest) = front ++ trimEnd p rest := by
  have hstart : (front ++ rest).dropWhile p = front ++ rest := by
    obtain ⟨c, cs, rfl⟩ := List.exists_cons_of_ne_nil hne
    exact List.dropWhile_cons_of_neg (by simp [h c List.mem_cons_self])
  obtain ⟨cs, c, rfl⟩ := (List.eq_nil_or_concat' front).resolve_left hne
  rw [trim, hstart, List.append_assoc, List.singleton_append,
    trimEnd_append_cons cs rest (h c (by simp)), List.append_assoc, List.singleton_append]

/-- A row of characters in a class ends where one comes that is not in the class. -/
theorem span_append {inside rest : List Char} (hinside : ∀ c ∈ inside, p c = true)
    (hrest : ∀ c ∈ rest.head?, p c = false) : (inside ++ rest).span p = (inside, rest) := by
  rw [List.span_eq_takeWhile_dropWhile, List.takeWhile_append_of_pos hinside,
    List.dropWhile_append_of_pos hinside]
  cases rest with
  | nil => simp
  | cons c rest => simp [hrest c rfl]

/-- What a text is cut into makes up the text again. -/
theorem span_eq {cs inside rest : List Char} (h : cs.span p = (inside, rest)) :
    cs = inside ++ rest ∧ (∀ c ∈ inside, p c = true) ∧ ∀ c ∈ rest.head?, p c = false := by
  rw [List.span_eq_takeWhile_dropWhile, Prod.mk.injEq] at h
  obtain ⟨rfl, rfl⟩ := h
  refine ⟨List.takeWhile_append_dropWhile.symm, fun c hc => List.mem_takeWhile_imp hc, ?_⟩
  intro c hc
  have hdrop := List.head?_dropWhile_not p cs
  rw [hc] at hdrop
  simpa using hdrop

end VersionedStore.Text
