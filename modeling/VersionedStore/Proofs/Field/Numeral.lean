import Mathlib.Data.List.TakeDrop
import Mathlib.Data.List.TakeWhile
import VersionedStore.Proofs.Json.Grammar.Numbers
import VersionedStore.Field.Numeral

/-!
Texts of integers against the grammar of numbers. The plain text of an integer is
what a JSON body would show: a minus sign, if there is one, and the whole part of
a number.
-/

namespace VersionedStore.Field

open Number
open VersionedStore.Json.Grammar

theorem filterMap_asciiDigit? {ds : List Char} (hdigits : ∀ c ∈ ds, c.isDigit = true) :
    ds.filterMap asciiDigit? = ds.map digitValue := by
  rw [← List.filterMap_eq_map]
  refine List.filterMap_congr fun c hc => ?_
  rw [asciiDigit?, if_pos (hdigits c hc)]
  rfl

theorem signed_zero (negative : Bool) : signed negative 0 = 0 := by
  cases negative <;> rfl

/-- A plain text is read as the number that its digits denote. -/
theorem plainInteger_eq_integer_iff {cs : List Char} {n : ℤ} :
    plainInteger cs = .integer n ↔
      ∃ negative ds, minus cs = (negative, ds) ∧ Whole ds ∧ n = signed negative (decimal ds) := by
  rcases hminus : minus cs with ⟨negative, ds⟩
  simp only [plainInteger, hminus, List.span_eq_takeWhile_dropWhile]
  constructor
  · intro hplain
    refine ⟨negative, ds, rfl, ?_⟩
    split_ifs at hplain with hzero hhead hlong hrest
    · obtain rfl := Plain.integer.inj hplain
      subst hzero
      exact ⟨⟨⟨by simp, by simp⟩, fun _ => rfl, by simp⟩, (signed_zero negative).symm⟩
    · obtain rfl := Plain.integer.inj hplain
      have hall : ds.takeWhile Char.isDigit = ds := by
        have happend := List.takeWhile_append_dropWhile (p := Char.isDigit) (l := ds)
        rwa [hrest, List.append_nil] at happend
      rw [hall] at hhead hlong ⊢
      have hdigits : ∀ c ∈ ds, c.isDigit = true := List.takeWhile_eq_self_iff.mp hall
      obtain ⟨hne, hfirst⟩ := not_or.mp hhead
      refine ⟨⟨⟨hne, hdigits⟩, fun h => absurd h hfirst, Nat.not_lt.mp hlong⟩, ?_⟩
      rw [filterMap_asciiDigit? hdigits, ofDigits_map]
  · intro h
    obtain ⟨_, _, heq, hwhole, rfl⟩ := h
    obtain ⟨rfl, rfl⟩ := Prod.mk.inj heq
    by_cases hzero : ds = ['0']
    · subst hzero
      simp only [if_true]
      exact congrArg _ (signed_zero negative).symm
    · have hall : ds.takeWhile Char.isDigit = ds := List.takeWhile_eq_self_iff.mpr hwhole.digits.2
      have hnone : ds.dropWhile Char.isDigit = [] := List.dropWhile_eq_nil_iff.mpr hwhole.digits.2
      have hhead : ¬(ds = [] ∨ ds.head? = some '0') :=
        not_or.mpr ⟨hwhole.digits.1, fun h => hzero (hwhole.zero h)⟩
      have hshort : ¬maxTextDigits < ds.length := Nat.not_lt.mpr hwhole.short
      rw [if_neg hzero, hall, hnone, if_neg hhead, if_neg hshort, if_pos rfl,
        filterMap_asciiDigit? hwhole.digits.2, ofDigits_map]

theorem natAbs_signed (negative : Bool) (n : ℕ) : (signed negative n).natAbs = n := by
  cases negative with
  | false => rfl
  | true => exact Int.natAbs_neg n

theorem natAbs_lt_of_plainInteger {cs : List Char} {n : ℤ} (h : plainInteger cs = .integer n) :
    n.natAbs < 10 ^ Json.maxDigits := by
  obtain ⟨negative, ds, -, hwhole, rfl⟩ := plainInteger_eq_integer_iff.mp h
  rw [natAbs_signed]
  exact hwhole.decimal_lt

/-- A text is read plainly or after it has been tidied. -/
theorem integerOfText_eq_ok_iff {s : String} {n : ℤ} :
    integerOfText s = .ok n ↔ plainInteger s.toList = .integer n ∨
      plainInteger s.toList = .other ∧ (tidy s.toList).map plainInteger = some (.integer n) := by
  unfold integerOfText
  cases plainInteger s.toList with
  | integer k => simp
  | tooLong => simp [fail]
  | other =>
    rcases htidy : (tidy s.toList).map plainInteger with _ | (k | _ | _) <;> simp [fail]

/-- No integer that is read of a text is too long to be written and read again. -/
theorem natAbs_lt_of_integerOfText {s : String} {n : ℤ} (h : integerOfText s = .ok n) :
    n.natAbs < 10 ^ Json.maxDigits := by
  rcases integerOfText_eq_ok_iff.mp h with h | ⟨-, h⟩
  · exact natAbs_lt_of_plainInteger h
  · obtain ⟨cs, -, hplain⟩ := Option.map_eq_some_iff.mp h
    exact natAbs_lt_of_plainInteger hplain

end VersionedStore.Field
