import Mathlib.Data.List.Basic
import VersionedStore.Json.Reader
import VersionedStore.Json.Printer

/-!
A string in JSON text is read back as it was written. Every character is written
as one unit that stands for it alone: as itself, behind a backslash, or as the
four hexadecimal digits of a control character, which is no half of a pair.
-/

namespace VersionedStore.Json

theorem hexValue?_hexDigit : ∀ n, n < 16 → hexValue? (hexDigit n) = some n := by decide

theorem hexDigit_mod (n : ℕ) : hexDigit (n % 16) = hexDigit n := by
  simp [hexDigit]

/-- The two digits of a number below 32 after two zeros. -/
theorem hexUnit?_hexDigit {n : ℕ} (hn : n < 0x20) :
    hexUnit? '0' '0' (hexDigit (n / 16)) (hexDigit n) = some n := by
  have hzero : hexValue? '0' = some 0 := by decide
  have hhigh : hexValue? (hexDigit (n / 16)) = some (n / 16) :=
    hexValue?_hexDigit _ (by omega)
  have hlow : hexValue? (hexDigit n) = some (n % 16) := by
    rw [← hexDigit_mod]
    exact hexValue?_hexDigit _ (by omega)
  simp only [hexUnit?, hzero, hhigh, hlow, Option.bind_eq_bind, Option.bind_some, Option.pure_def,
    Option.some.injEq]
  omega

theorem units_plain {c : Char} {cs rest : List Char} {us : List Unit16}
    (hcs : units cs = some (us, rest)) (hcontrol : ¬ c.toNat < 0x20) (hquote : c ≠ '"')
    (hslash : c ≠ '\\') : units (c :: cs) = some (.plain c :: us, rest) := by
  rw [units]
  · simp [hcontrol, hslash, hcs]
  all_goals simp [hquote, hslash]

theorem units_short {e c : Char} {cs rest : List Char} {us : List Unit16}
    (hcs : units cs = some (us, rest)) (he : e ≠ 'u') (hc : shortEscape? e = some c) :
    units ('\\' :: e :: cs) = some (.plain c :: us, rest) := by
  rw [units]
  · simp [hc, hcs]
  · simp [he]

/-- An escape of four digits is one unit, be it a character or a half of one. -/
theorem units_hex {a b c d : Char} {n : ℕ} {cs rest : List Char} {us : List Unit16}
    (hcs : units cs = some (us, rest)) (hn : hexUnit? a b c d = some n) :
    units ('\\' :: 'u' :: a :: b :: c :: d :: cs) = some (.escaped n :: us, rest) := by
  simp [units, hn, hcs]

theorem join?_plain {c : Char} {us : List Unit16} {s : List Char} (hus : join? us = some s) :
    join? (.plain c :: us) = some (c :: s) := by
  simp [join?, hus]

/-- No character is half of a pair. -/
theorem not_half_toNat (c : Char) : isHighHalf c.toNat = false ∧ isLowHalf c.toNat = false := by
  have hvalid : c.toNat < 0xd800 ∨ 0xdfff < c.toNat ∧ c.toNat < 0x110000 := c.valid
  simp only [isHighHalf, isLowHalf, Bool.and_eq_false_iff, decide_eq_false_iff_not]
  omega

theorem join?_escaped {c : Char} {us : List Unit16} {s : List Char} (hus : join? us = some s) :
    join? (.escaped c.toNat :: us) = some (c :: s) := by
  obtain ⟨hhigh, hlow⟩ := not_half_toNat c
  unfold join?
  simp [hhigh, hlow, hus]

/-- An escaped character is one unit in front of those that follow it. -/
theorem exists_units_escape (c : Char) {cs rest s : List Char} {us : List Unit16}
    (hcs : units cs = some (us, rest)) (hus : join? us = some s) :
    ∃ u, units (escape c ++ cs) = some (u :: us, rest) ∧ join? (u :: us) = some (c :: s) := by
  unfold escape
  split_ifs with hquote hslash hback hfeed hline hreturn htab hcontrol
  · subst c
    exact ⟨_, units_short hcs (by decide) (by decide), join?_plain hus⟩
  · subst c
    exact ⟨_, units_short hcs (by decide) (by decide), join?_plain hus⟩
  · subst c
    exact ⟨_, units_short hcs (by decide) (by decide), join?_plain hus⟩
  · subst c
    exact ⟨_, units_short hcs (by decide) (by decide), join?_plain hus⟩
  · subst c
    exact ⟨_, units_short hcs (by decide) (by decide), join?_plain hus⟩
  · subst c
    exact ⟨_, units_short hcs (by decide) (by decide), join?_plain hus⟩
  · subst c
    exact ⟨_, units_short hcs (by decide) (by decide), join?_plain hus⟩
  · exact ⟨_, units_hex hcs (hexUnit?_hexDigit hcontrol), join?_escaped hus⟩
  · exact ⟨_, units_plain hcs hcontrol hquote hslash, join?_plain hus⟩

theorem exists_units_flatMap_escape (s rest : List Char) :
    ∃ us, units (s.flatMap escape ++ '"' :: rest) = some (us, rest) ∧ join? us = some s := by
  induction s with
  | nil => exact ⟨[], by simp [units], rfl⟩
  | cons c s ih =>
    obtain ⟨us, hunits, hjoin⟩ := ih
    obtain ⟨u, hu, huj⟩ := exists_units_escape c hunits hjoin
    exact ⟨u :: us, by simpa using hu, huj⟩

theorem quoted_escape (s : String) (rest : List Char) :
    quoted (s.toList.flatMap escape ++ '"' :: rest) = some (s, rest) := by
  obtain ⟨us, hunits, hjoin⟩ := exists_units_flatMap_escape s.toList rest
  simp [quoted, hunits, hjoin]

end VersionedStore.Json
