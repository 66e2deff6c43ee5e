import Mathlib.Algebra.Group.Int.Defs
import Mathlib.Algebra.Group.Nat.Defs
import VersionedStore.Proofs.Number.Decimal
import VersionedStore.Json.Reader
import VersionedStore.Json.Printer

/-!
Numbers in JSON text are read back as they were written, as long as their whole
part has no more digits than the reader takes; a longer one is refused. The
text after a number matters to the reader, so every statement is about a number
in front of a text that cannot continue it.
-/

namespace VersionedStore.Json

open Number

def EndsNumber (rest : List Char) : Prop :=
  ∀ c ∈ rest.head?, c.isDigit = false ∧ c ≠ '.' ∧ c ≠ 'e' ∧ c ≠ 'E'

theorem endsNumber_nil : EndsNumber [] := by simp [EndsNumber]

theorem endsNumber_cons {c : Char} {cs : List Char} (hc : c = ',' ∨ c = ']' ∨ c = '}') :
    EndsNumber (c :: cs) := by
  intro d hd
  obtain rfl : c = d := by simpa using hd
  rcases hc with rfl | rfl | rfl <;> decide

theorem digitRow_append {ds rest : List Char} (hdigits : ∀ c ∈ ds, c.isDigit = true)
    (hrest : ∀ c ∈ rest.head?, c.isDigit = false) :
    digitRow (ds ++ rest) = (ds.map digitValue, rest) := by
  have htake : rest.takeWhile Char.isDigit = [] := by
    cases rest with
    | nil => rfl
    | cons c cs => exact List.takeWhile_cons_of_neg (by simpa using hrest c rfl)
  have hdrop : rest.dropWhile Char.isDigit = rest := by
    cases rest with
    | nil => rfl
    | cons c cs => exact List.dropWhile_cons_of_neg (by simpa using hrest c rfl)
  rw [digitRow, List.takeWhile_append_of_pos hdigits, List.dropWhile_append_of_pos hdigits,
    htake, hdrop, List.append_nil]
  rfl

/-- The whole part of a number is read in front of a text that does not start
with a digit. -/
theorem whole_append {ds rest : List Char} (hne : ds ≠ []) (hdigits : ∀ c ∈ ds, c.isDigit = true)
    (hzero : ds.head? = some '0' → ds = ['0']) (hrest : ∀ c ∈ rest.head?, c.isDigit = false) :
    whole (ds ++ rest) =
      if ds.length ≤ maxDigits then some (ds.map digitValue, rest) else none := by
  simp only [whole, digitRow_append hdigits hrest]
  split
  · next heq => exact absurd (List.map_eq_nil_iff.mp (Prod.mk.inj heq).1) hne
  · next heq =>
    obtain ⟨c, cs, rfl, hc, hcs⟩ := List.map_eq_cons_iff.mp (Prod.mk.inj heq).1
    obtain rfl := eq_zero_of_digitValue (hdigits c (by simp)) hc
    obtain ⟨-, rfl⟩ := List.cons.inj (hzero rfl)
    cases hcs
  · next heq =>
    obtain ⟨rfl, rfl⟩ := Prod.mk.inj heq
    rw [List.length_map]

/-- The digits of a natural are a whole part, if they are not too many. -/
theorem whole_toDigits (n : ℕ) (rest : List Char) (hrest : ∀ c ∈ rest.head?, c.isDigit = false) :
    whole (Nat.toDigits 10 n ++ rest) =
      if n < 10 ^ maxDigits then some ((Nat.toDigits 10 n).map digitValue, rest) else none := by
  have hlength : (Nat.toDigits 10 n).length ≤ maxDigits ↔ n < 10 ^ maxDigits :=
    Nat.length_toDigits_le_iff (by decide) (by decide)
  have hzero : (Nat.toDigits 10 n).head? = some '0' → Nat.toDigits 10 n = ['0'] := by
    intro hhead
    obtain rfl | hn := Nat.eq_zero_or_pos n
    · exact Nat.toDigits_zero 10
    · exact absurd hhead (head?_toDigits_ne_zero n hn)
  rw [whole_append Nat.toDigits_ne_nil (toDigits_all_isDigit n) hzero hrest]
  simp only [hlength]

/-- Where no point stands there is no fraction. -/
theorem fraction_of_endsNumber {rest : List Char} (hrest : ∀ c ∈ rest.head?, c ≠ '.') :
    fraction rest = some (none, rest) := by
  cases rest with
  | nil => rfl
  | cons c cs =>
    have hc := hrest c rfl
    rw [fraction]
    simp [hc]

theorem exponent_of_endsNumber {rest : List Char} (hrest : EndsNumber rest) :
    exponent rest = some (none, rest) := by
  cases rest with
  | nil => rfl
  | cons c cs =>
    obtain ⟨-, -, he, hE⟩ := hrest c rfl
    simp [exponent, he, hE]

theorem writeInt_eq (n : ℤ) :
    writeInt n = (if n < 0 then ['-'] else []) ++ Nat.toDigits 10 n.natAbs := by
  cases n with
  | ofNat n => simp [writeInt]
  | negSucc n => simp [writeInt]

theorem toList_toString (n : ℤ) : (toString n).toList = writeInt n := by
  cases n with
  | ofNat n => simp [writeInt, toString, Int.repr, Nat.repr]
  | negSucc n => simp [writeInt, toString, Int.repr, Nat.repr]

/-- An integer is read back up to the longest that the reader takes. -/
theorem magnitude_toDigits (negative : Bool) (n : ℕ) (rest : List Char) (hrest : EndsNumber rest) :
    magnitude negative (Nat.toDigits 10 n ++ rest) =
      if n < 10 ^ maxDigits then some (.integer (signed negative n), rest) else none := by
  rw [magnitude, whole_toDigits n rest (fun c hc => (hrest c hc).1)]
  split
  · simp [fraction_of_endsNumber (fun c hc => (hrest c hc).2.1), exponent_of_endsNumber hrest,
      ofDigits_toDigits]
  · rfl

/-- The first digit of a number written out. -/
theorem exists_toDigits_cons (n : ℕ) :
    ∃ c cs, Nat.toDigits 10 n = c :: cs ∧ c.isDigit = true := by
  cases hn : Nat.toDigits 10 n with
  | nil => exact absurd hn Nat.toDigits_ne_nil
  | cons c cs => exact ⟨c, cs, rfl, toDigits_all_isDigit n c (by simp [hn])⟩

theorem sign_writeInt (n : ℤ) (rest : List Char) :
    sign (writeInt n ++ rest) = (decide (n < 0), Nat.toDigits 10 n.natAbs ++ rest) := by
  obtain ⟨c, cs, hcs, hc⟩ := exists_toDigits_cons n.natAbs
  have hplus : c ≠ '+' := ne_of_isDigit hc rfl
  have hminus : c ≠ '-' := ne_of_isDigit hc rfl
  rw [writeInt_eq, hcs]
  by_cases hneg : n < 0
  · simp [hneg, sign]
  · simp [hneg, sign, hplus, hminus]

/-- The exponent of a number is read in front of a text that does not start
with a digit. -/
theorem exponent_append {e : Char} {cs ds rest : List Char} {negative : Bool}
    (he : e = 'e' ∨ e = 'E') (hsign : sign cs = (negative, ds ++ rest)) (hne : ds ≠ [])
    (hdigits : ∀ c ∈ ds, c.isDigit = true) (hrest : ∀ c ∈ rest.head?, c.isDigit = false) :
    exponent (e :: cs) = some (some (signed negative (ofDigits (ds.map digitValue))), rest) := by
  obtain ⟨d, ds, rfl⟩ := List.exists_cons_of_ne_nil hne
  have htest : (e == 'e' || e == 'E') = true := by simpa using he
  simp only [exponent, htest, if_true, hsign, digitRow_append hdigits hrest, List.map_cons]

/-- An exponent may have any number of digits. -/
theorem exponent_writeInt (n : ℤ) (rest : List Char) (hrest : ∀ c ∈ rest.head?, c.isDigit = false) :
    exponent ('e' :: (writeInt n ++ rest)) = some (some n, rest) := by
  rw [exponent_append (.inl rfl) (sign_writeInt n rest) Nat.toDigits_ne_nil
    (toDigits_all_isDigit _) hrest, ofDigits_toDigits, signed_natAbs]

/-- A decimal is read back with its exponent, as it was written. -/
theorem magnitude_decimal (d : Decimal) (rest : List Char) (hrest : EndsNumber rest) :
    magnitude d.negative (Nat.toDigits 10 d.mantissa ++ 'e' :: (writeInt d.exponent ++ rest)) =
      if d.mantissa < 10 ^ maxDigits then some (.real (.decimal d), rest) else none := by
  rw [magnitude, whole_toDigits _ _ (by simp)]
  split
  · have hfraction : fraction ('e' :: (writeInt d.exponent ++ rest)) =
        some (none, 'e' :: (writeInt d.exponent ++ rest)) := fraction_of_endsNumber (by simp)
    have hexponent := exponent_writeInt d.exponent rest (fun c hc => (hrest c hc).1)
    simp [hfraction, hexponent, ofDigits_toDigits]
  · rfl

end VersionedStore.Json
