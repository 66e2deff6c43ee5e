import Mathlib.Data.List.Basic
import VersionedStore.Json.Reader

/-!
Items written one after another with commas between them are read back in order
from inside a container. The statements are about any kind of item whose reader
gives an item back in front of a comma or of the closing character; they cover
items of which some are refused, because then the container is refused.
-/

namespace VersionedStore.Json

variable {α : Type}

def commaSeparated (write : α → List Char) : List α → List Char
  | [] => []
  | [x] => write x
  | x :: y :: ys => write x ++ ',' :: commaSeparated write (y :: ys)

theorem skip_of_head {c : Char} {cs : List Char} (hc : isGap c = false) :
    skip (c :: cs) = c :: cs :=
  List.dropWhile_cons_of_neg (by simp [hc])

/-- How a reader of items undoes a writer of items: the text of an item starts
with a character that neither is skipped nor closes the container, and the item
is read back in front of what may follow it, unless it is not readable. -/
structure ReadsBack (item : Reader α) (write : α → List Char) (close : Char) (readable : α → Prop)
    [DecidablePred readable] (x : α) : Prop where
  head : ∃ c cs, write x = c :: cs ∧ isGap c = false ∧ c ≠ close
  read : ∀ c cs, c = ',' ∨ c = close →
    item (write x ++ c :: cs) = if readable x then some (x, c :: cs) else none

namespace ReadsBack

variable {item : Reader α} {write : α → List Char} {close : Char} {readable : α → Prop}
  [DecidablePred readable]

theorem skip_write {x : α} (hx : ReadsBack item write close readable x) (rest : List Char) :
    skip (write x ++ rest) = write x ++ rest := by
  obtain ⟨c, cs, hcs, hgap, -⟩ := hx.head
  rw [hcs, List.cons_append, skip_of_head hgap]

/-- Items are read back in order, unless one of them is not readable. -/
theorem items_commaSeparated (hgap : isGap close = false) (hcomma : close ≠ ',') (xs : List α)
    (hxs : ∀ x ∈ xs, ReadsBack item write close readable x) (hne : xs ≠ [])
    (bound rest : List Char) (hbound : xs.length ≤ bound.length) :
    items item close bound (commaSeparated write xs ++ close :: rest) =
      if ∀ x ∈ xs, readable x then some (xs, rest) else none := by
  induction xs generalizing bound with
  | nil => exact absurd rfl hne
  | cons x xs ih =>
    obtain ⟨b, bs, rfl⟩ : ∃ b bs, bound = b :: bs :=
      List.exists_cons_of_length_pos (by simp only [List.length_cons] at hbound; omega)
    have hx := hxs x (by simp)
    cases xs with
    | nil =>
      simp only [commaSeparated, items, hx.skip_write, hx.read close rest (Or.inr rfl)]
      by_cases hr : readable x
      · simp [hr, skip_of_head hgap]
      · simp [hr]
    | cons y ys =>
      have hrest := ih (fun z hz => hxs z (by simp [hz])) (by simp) bs
        (by simpa using hbound)
      have hread := hx.read ',' (commaSeparated write (y :: ys) ++ close :: rest) (Or.inl rfl)
      have hskip : ∀ cs, skip (',' :: cs) = ',' :: cs := fun cs => skip_of_head (by decide)
      simp only [commaSeparated, List.append_assoc, List.cons_append, items, hx.skip_write, hread]
      by_cases hr : readable x
      · simp only [List.mem_cons, forall_eq_or_imp, hr, true_and, if_true, Option.bind_eq_bind,
          Option.bind_some, hskip, Ne.symm hcomma, beq_iff_eq, if_false, hrest]
        split_ifs <;> rfl
      · simp [hr]

/-- Every item takes at least one character. -/
theorem length_le_commaSeparated (xs : List α)
    (hxs : ∀ x ∈ xs, ReadsBack item write close readable x) :
    xs.length ≤ (commaSeparated write xs).length := by
  induction xs with
  | nil => exact Nat.le_refl 0
  | cons x xs ih =>
    obtain ⟨c, cs, hcs, -, -⟩ := (hxs x (by simp)).head
    have hrest := ih (fun z hz => hxs z (by simp [hz]))
    cases xs with
    | nil => simp [commaSeparated, hcs]
    | cons y ys =>
      simp only [commaSeparated, hcs, List.length_append, List.length_cons] at hrest ⊢
      omega

/-- A container is read back as its items are, and an empty one always. -/
theorem container_commaSeparated (hgap : isGap close = false) (hcomma : close ≠ ',') (xs : List α)
    (hxs : ∀ x ∈ xs, ReadsBack item write close readable x) (rest : List Char) :
    container item close (commaSeparated write xs ++ close :: rest) =
      if ∀ x ∈ xs, readable x then some (xs, rest) else none := by
  cases xs with
  | nil => simp [container, commaSeparated, skip_of_head hgap]
  | cons x xs =>
    obtain ⟨c, cs, hcs, hc, hclose⟩ := (hxs x (by simp)).head
    have hitems := items_commaSeparated hgap hcomma (x :: xs) hxs (by simp)
    have hlength := length_le_commaSeparated (x :: xs) hxs
    obtain ⟨ds, hds⟩ : ∃ ds, commaSeparated write (x :: xs) = c :: ds := by
      cases xs with
      | nil => exact ⟨cs, hcs⟩
      | cons y ys => exact ⟨_, by rw [commaSeparated, hcs, List.cons_append]⟩
    rw [hds] at hitems hlength ⊢
    simp only [container, List.cons_append, skip_of_head hc, hclose, beq_iff_eq, if_false]
    exact hitems _ rest (by simp only [List.length_cons, List.length_append] at hlength ⊢; omega)

end ReadsBack

end VersionedStore.Json
