import Mathlib.Data.List.TakeWhile
import VersionedStore.Proofs.Json.Containers
import VersionedStore.Proofs.Json.Grammar
import VersionedStore.Proofs.Json.Numerals

/-!
The reader of items in a container against a grammar of them, for items of any
kind. What makes a reader go with a grammar is one structure; from it follows
that the container is read as the grammar has it, with white space wherever that
may stand.
-/

namespace VersionedStore.Json.Grammar

variable {α : Type}

theorem gap_iff {g : List Char} : Gap g ↔ ∀ c ∈ g, isGap c = true := by
  simp [Gap, isGap, or_assoc]

theorem gap_append {g g' : List Char} (hg : Gap g) (hg' : Gap g') : Gap (g ++ g') :=
  List.forall_mem_append.mpr ⟨hg, hg'⟩

/-- What is skipped is white space. -/
theorem exists_gap_skip (cs : List Char) : ∃ g, Gap g ∧ cs = g ++ skip cs :=
  ⟨_, gap_iff.mpr fun _ hc => List.mem_takeWhile_imp hc, List.takeWhile_append_dropWhile.symm⟩

theorem skip_gap {g : List Char} (hg : Gap g) (cs : List Char) : skip (g ++ cs) = skip cs :=
  List.dropWhile_append_of_pos (gap_iff.mp hg)

theorem skip_gap_cons {g : List Char} (hg : Gap g) {c : Char} (hc : isGap c = false)
    (cs : List Char) : skip (g ++ c :: cs) = c :: cs := by
  rw [skip_gap hg, skip_of_head hc]

theorem endsNumber_gap {g : List Char} (hg : Gap g) {cs : List Char} (hcs : EndsNumber cs) :
    EndsNumber (g ++ cs) := by
  cases g with
  | nil => exact hcs
  | cons b g =>
    intro d hd
    obtain rfl := Option.some.inj hd
    rcases hg b (by simp) with rfl | rfl | rfl | rfl <;> decide

def Opens (t : List Char) : Prop :=
  ∃ c cs, t = c :: cs ∧ isGap c = false ∧ c ≠ ']' ∧ c ≠ '}'

theorem Opens.skip_append {t : List Char} (ht : Opens t) (rest : List Char) :
    skip (t ++ rest) = t ++ rest := by
  obtain ⟨c, cs, rfl, hc, -⟩ := ht
  exact skip_of_head hc

/-- How a reader goes with a grammar: it reads only texts of the grammar, and it
reads each of them in front of a text that may follow. -/
structure Reads (item : Reader α) (G : List Char → α → Prop) : Prop where
  sound : ∀ {cs rest x}, item cs = some (x, rest) → ∃ t, G t x ∧ cs = t ++ rest
  complete : ∀ {t rest x}, G t x → EndsNumber rest → item (t ++ rest) = some (x, rest)
  opens : ∀ {t x}, G t x → Opens t

inductive Separated (G : List Char → α → Prop) : List Char → List α → Prop where
  | one {g t g' : List Char} {x : α} (hg : Gap g) (h : G t x) (hg' : Gap g') :
    Separated G (g ++ (t ++ g')) [x]
  | cons {g t g' u : List Char} {x : α} {xs : List α} (hg : Gap g) (h : G t x) (hg' : Gap g')
    (hs : Separated G u xs) : Separated G (g ++ (t ++ (g' ++ ',' :: u))) (x :: xs)

variable {item : Reader α} {G : List Char → α → Prop} {close : Char}

theorem Separated.gap_append {g t : List Char} {xs : List α} (hg : Gap g) (h : Separated G t xs) :
    Separated G (g ++ t) xs := by
  cases h with
  | one hg₁ h hg' =>
    rw [← List.append_assoc]
    exact .one (Grammar.gap_append hg hg₁) h hg'
  | cons hg₁ h hg' hs =>
    rw [← List.append_assoc]
    exact .cons (Grammar.gap_append hg hg₁) h hg' hs

theorem isGap_close (hclose : close = ']' ∨ close = '}') : isGap close = false := by
  rcases hclose with rfl | rfl <;> decide

namespace Reads

/-- What is read as items is separated items, up to the character that closes them. -/
theorem items_sound (hitem : Reads item G) {bound cs rest : List Char} {xs : List α}
    (h : items item close bound cs = some (xs, rest)) :
    ∃ t, Separated G t xs ∧ cs = t ++ close :: rest := by
  -- The bound limits the number of items only, so any bound that suffices will do.
  induction bound generalizing cs xs with
  | nil => cases h
  | cons b bound ih =>
    obtain ⟨g, hg, hcs⟩ := exists_gap_skip cs
    obtain ⟨⟨x, cs'⟩, hx, h⟩ := Option.bind_eq_some_iff.mp h
    obtain ⟨t, ht, hskip⟩ := hitem.sound hx
    obtain ⟨g', hg', hcs'⟩ := exists_gap_skip cs'
    rw [hskip] at hcs
    dsimp only at h
    split at h
    · cases h
    · next c cs'' hc =>
      rw [hc] at hcs'
      split_ifs at h with hclose hcomma
      · obtain ⟨rfl, rfl⟩ := Prod.mk.inj (Option.some.inj h)
        obtain rfl : c = close := by simpa using hclose
        exact ⟨_, .one hg ht hg', by rw [hcs, hcs']; simp⟩
      · obtain ⟨⟨xs', rest'⟩, hxs, h⟩ := Option.bind_eq_some_iff.mp h
        obtain ⟨rfl, rfl⟩ := Prod.mk.inj (Option.some.inj h)
        obtain rfl : c = ',' := by simpa using hcomma
        obtain ⟨u, hu, hcs''⟩ := ih hxs
        exact ⟨_, .cons hg ht hg' hu, by rw [hcs, hcs', hcs'']; simp⟩

/-- A container is either closed at once or holds separated items. -/
theorem container_sound (hitem : Reads item G) {cs rest : List Char} {xs : List α}
    (h : container item close cs = some (xs, rest)) :
    (xs = [] ∧ ∃ g, Gap g ∧ cs = g ++ close :: rest) ∨
      ∃ t, Separated G t xs ∧ cs = t ++ close :: rest := by
  obtain ⟨g, hg, hcs⟩ := exists_gap_skip cs
  unfold container at h
  dsimp only at h
  split at h
  · cases h
  · next c cs' hc =>
    split_ifs at h with hclose
    · obtain ⟨rfl, rfl⟩ := Prod.mk.inj (Option.some.inj h)
      obtain rfl : c = close := by simpa using hclose
      exact .inl ⟨rfl, g, hg, by rw [hcs, hc]⟩
    · obtain ⟨t, ht, hskip⟩ := hitem.items_sound h
      exact .inr ⟨g ++ t, ht.gap_append hg, by rw [hcs, hskip, List.append_assoc]⟩

/-- Separated items are read, if the bound allows as many. -/
theorem items_complete (hitem : Reads item G) (hclose : close = ']' ∨ close = '}')
    {t : List Char} {xs : List α} (ht : Separated G t xs) (bound rest : List Char)
    (hbound : xs.length ≤ bound.length) :
    items item close bound (t ++ close :: rest) = some (xs, rest) := by
  induction ht generalizing bound with
  | @one g t g' x hg h hg' =>
    obtain ⟨b, bs, rfl⟩ := List.exists_cons_of_length_pos hbound
    have hends : EndsNumber (close :: rest) := endsNumber_cons (.inr hclose)
    have hread := hitem.complete h (endsNumber_gap hg' hends)
    have hskip := skip_gap_cons hg' (isGap_close hclose) rest
    simp only [items, List.append_assoc, skip_gap hg, (hitem.opens h).skip_append, hread,
      Option.bind_eq_bind, Option.bind_some, hskip, beq_self_eq_true, if_true, Option.pure_def]
  | @cons g t g' u x xs hg h hg' _ ih =>
    obtain ⟨b, bs, rfl⟩ : ∃ b bs, bound = b :: bs :=
      List.exists_cons_of_length_pos (Nat.lt_of_lt_of_le (Nat.succ_pos _) hbound)
    have hends : EndsNumber (',' :: (u ++ close :: rest)) := endsNumber_cons (.inl rfl)
    have hread := hitem.complete h (endsNumber_gap hg' hends)
    have hskip := skip_gap_cons hg' (c := ',') (by decide) (u ++ close :: rest)
    have hcomma : (',' == close) = false := by rcases hclose with rfl | rfl <;> decide
    have hrest := ih bs (Nat.le_of_succ_le_succ hbound)
    simp only [items, List.append_assoc, List.cons_append, skip_gap hg,
      (hitem.opens h).skip_append, hread, Option.bind_eq_bind, Option.bind_some, hskip, hcomma,
      Bool.false_eq_true, beq_self_eq_true, if_false, if_true, hrest, Option.pure_def]

/-- Every item takes at least one character. -/
theorem length_le (hitem : Reads item G) {t : List Char} {xs : List α} (ht : Separated G t xs) :
    xs.length ≤ t.length := by
  induction ht with
  | one hg h hg' =>
    obtain ⟨c, cs, rfl, -⟩ := hitem.opens h
    simp only [List.length_append, List.length_cons, List.length_nil]
    omega
  | cons hg h hg' hs ih =>
    simp only [List.length_append, List.length_cons]
    omega

/-- Behind white space the text of items starts with that of the first. -/
theorem exists_opens (hitem : Reads item G) {t : List Char} {xs : List α}
    (ht : Separated G t xs) : ∃ g u, Gap g ∧ Separated G u xs ∧ Opens u ∧ t = g ++ u := by
  cases ht with
  | @one g t g' x hg h hg' =>
    obtain ⟨c, cs, rfl, hc⟩ := hitem.opens h
    exact ⟨g, _, hg, .one (g := []) (by simp [Gap]) h hg', ⟨c, _, rfl, hc⟩, rfl⟩
  | @cons g t g' u x xs hg h hg' hs =>
    obtain ⟨c, cs, rfl, hc⟩ := hitem.opens h
    exact ⟨g, _, hg, .cons (g := []) (by simp [Gap]) h hg' hs, ⟨c, _, rfl, hc⟩, rfl⟩

/-- Separated items are read as a container, as its text bounds their number. -/
theorem container_complete (hitem : Reads item G) (hclose : close = ']' ∨ close = '}')
    {t : List Char} {xs : List α} (ht : Separated G t xs) (rest : List Char) :
    container item close (t ++ close :: rest) = some (xs, rest) := by
  obtain ⟨g, u, hg, hu, ⟨c, cs, rfl, hc, hbracket, hbrace⟩, rfl⟩ := hitem.exists_opens ht
  have hopen : (c == close) = false := by
    rcases hclose with rfl | rfl <;> simp [hbracket, hbrace]
  have hlength := hitem.length_le hu
  have hitems := hitem.items_complete hclose hu (c :: cs ++ close :: rest) rest
    (by simp only [List.length_append] at hlength ⊢; omega)
  simp only [container, List.append_assoc, List.cons_append, skip_gap_cons hg hc, hopen,
    Bool.false_eq_true, if_false]
  exact hitems

end Reads

theorem container_gap (hclose : close = ']' ∨ close = '}') {g : List Char} (hg : Gap g)
    (rest : List Char) : container item close (g ++ close :: rest) = some ([], rest) := by
  simp only [container, skip_gap_cons hg (isGap_close hclose), beq_self_eq_true, if_true]

end VersionedStore.Json.Grammar
