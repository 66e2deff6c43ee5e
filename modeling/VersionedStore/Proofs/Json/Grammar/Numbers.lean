import Mathlib.Data.List.TakeWhile
import Mathlib.Data.Nat.Digits.Defs
import VersionedStore.Proofs.Json.Grammar
import VersionedStore.Proofs.Json.Numerals

/-!
The reader of numbers against the grammar, part by part. What a part reads is a
text of the grammar; and the reader takes the whole of such a text where the
text behind it does not go on with the number. A part that is not there is read
as nothing.
-/

namespace VersionedStore.Json.Grammar

open Number

def part {α : Type} (t : List Char) (x : α) : Option α := if t = [] then none else some x

theorem ofDigits_map (ds : List Char) : ofDigits (ds.map digitValue) = decimal ds :=
  ofDigits_map_digitValue ds

theorem ofDigits_eq_reverse (vs : List ℕ) : ofDigits vs = Nat.ofDigits 10 vs.reverse := by
  rw [ofDigits, Nat.ofDigits_eq_foldr, List.foldr_reverse]
  congr
  funext n d
  exact Nat.add_comm _ _

theorem digitValue_lt {c : Char} (hc : c.isDigit = true) : digitValue c < 10 := by
  have hrange : 48 ≤ c.toNat ∧ c.toNat ≤ 57 := Char.isDigit_iff_toNat.mp hc
  have hvalue : digitValue c = c.toNat - 48 := rfl
  omega

/-- A row of digits denotes a number that has no more digits. -/
theorem decimal_lt {ds : List Char} (hdigits : ∀ c ∈ ds, c.isDigit = true) :
    decimal ds < 10 ^ ds.length := by
  have hvalues : ∀ v ∈ (ds.map digitValue).reverse, v < 10 := by
    intro v hv
    obtain ⟨c, hc, rfl⟩ := List.mem_map.mp (List.mem_reverse.mp hv)
    exact digitValue_lt (hdigits c hc)
  have hlt := Nat.ofDigits_lt_base_pow_length (by decide : 1 < 10) hvalues
  rwa [← ofDigits_eq_reverse, ofDigits_map, List.length_reverse, List.length_map] at hlt

/-- A whole part that is not too long has a value below the bound. -/
theorem Whole.decimal_lt {ds : List Char} (h : Whole ds) : decimal ds < 10 ^ maxDigits :=
  Nat.lt_of_lt_of_le (Grammar.decimal_lt h.digits.2) (Nat.pow_le_pow_right (by decide) h.short)

theorem digits_of_digitRow {cs rest : List Char} {vs : List ℕ} (h : digitRow cs = (vs, rest)) :
    ∃ ds, cs = ds ++ rest ∧ (∀ c ∈ ds, c.isDigit = true) ∧ vs = ds.map digitValue := by
  obtain ⟨rfl, rfl⟩ := Prod.mk.inj h
  exact ⟨_, List.takeWhile_append_dropWhile.symm, fun c hc => List.mem_takeWhile_imp hc, rfl⟩

theorem ne_nil_of_map {ds : List Char} {vs : List ℕ} (hvs : vs = ds.map digitValue)
    (hempty : vs = [] → False) : ds ≠ [] := by
  intro hnil
  subst hnil
  exact hempty hvs

/-- What is read as a whole part is one. -/
theorem whole_sound {cs rest : List Char} {vs : List ℕ} (h : whole cs = some (vs, rest)) :
    ∃ ds, Whole ds ∧ cs = ds ++ rest ∧ vs = ds.map digitValue := by
  unfold whole at h
  split at h
  · cases h
  · cases h
  · next vs' rest' hempty hzero hrow =>
    split_ifs at h with hshort
    obtain ⟨rfl, rfl⟩ := Prod.mk.inj (Option.some.inj h)
    obtain ⟨ds, rfl, hdigits, hvs⟩ := digits_of_digitRow hrow
    refine ⟨ds, ⟨⟨ne_nil_of_map hvs hempty, hdigits⟩, fun hhead => ?_, ?_⟩, rfl, hvs⟩
    · obtain ⟨ds', rfl⟩ := List.head?_eq_some_iff.mp hhead
      cases ds' with
      | nil => rfl
      | cons c ds' => exact absurd hvs (hzero (digitValue c) (ds'.map digitValue))
    · rw [hvs, List.length_map] at hshort
      exact hshort

/-- A whole part is read to its end, where no digit follows. -/
theorem whole_complete {ds rest : List Char} (h : Whole ds)
    (hrest : ∀ c ∈ rest.head?, c.isDigit = false) :
    whole (ds ++ rest) = some (ds.map digitValue, rest) := by
  have hshort : ds.length ≤ maxDigits := h.short
  rw [whole_append h.digits.1 h.digits.2 h.zero hrest, if_pos hshort]

theorem fraction_sound {cs rest : List Char} {o : Option (List ℕ)}
    (h : fraction cs = some (o, rest)) :
    ∃ f fs, Fraction f fs ∧ cs = f ++ rest ∧ o = part f (fs.map digitValue) := by
  unfold fraction at h
  split at h
  · split at h
    · cases h
    · next vs rest' hempty hrow =>
      obtain ⟨rfl, rfl⟩ := Prod.mk.inj (Option.some.inj h)
      obtain ⟨fs, rfl, hdigits, hvs⟩ := digits_of_digitRow hrow
      exact ⟨'.' :: fs, fs, .present ⟨ne_nil_of_map hvs hempty, hdigits⟩, rfl, congrArg some hvs⟩
  · obtain ⟨rfl, rfl⟩ := Prod.mk.inj (Option.some.inj h)
    exact ⟨[], [], .absent, rfl, rfl⟩

theorem fraction_complete {f fs rest : List Char} (h : Fraction f fs)
    (hrest : ∀ c ∈ rest.head?, c.isDigit = false ∧ c ≠ '.') :
    fraction (f ++ rest) = some (part f (fs.map digitValue), rest) := by
  cases h with
  | absent => exact fraction_of_endsNumber fun c hc => (hrest c hc).2
  | present h =>
    obtain ⟨d, ds, rfl⟩ := List.exists_cons_of_ne_nil h.1
    have hrow := digitRow_append h.2 fun c hc => (hrest c hc).1
    simp only [List.cons_append, List.map_cons] at hrow ⊢
    simp only [fraction, hrow]
    rfl

theorem sign_sound (cs : List Char) : ∃ s, Sign s (sign cs).1 ∧ cs = s ++ (sign cs).2 := by
  unfold sign
  split
  · exact ⟨_, .minus, rfl⟩
  · exact ⟨_, .plus, rfl⟩
  · exact ⟨_, .absent, rfl⟩

theorem sign_complete {s ds rest : List Char} {negative : Bool} (h : Sign s negative)
    (hds : Digits ds) : sign (s ++ (ds ++ rest)) = (negative, ds ++ rest) := by
  cases h with
  | absent =>
    obtain ⟨d, ds, rfl⟩ := List.exists_cons_of_ne_nil hds.1
    have hdigit := hds.2 d (by simp)
    simp [sign, ne_of_isDigit hdigit (d := '-') rfl, ne_of_isDigit hdigit (d := '+') rfl]
  | plus => rfl
  | minus => rfl

theorem exponent_sound {cs rest : List Char} {o : Option ℤ} (h : exponent cs = some (o, rest)) :
    ∃ x n, Exponent x n ∧ cs = x ++ rest ∧ o = part x n := by
  unfold exponent at h
  split at h
  · next e cs =>
    split_ifs at h with he
    · have hletter : e = 'e' ∨ e = 'E' := by simpa using he
      obtain ⟨s, hs, hcs⟩ := sign_sound cs
      dsimp only at h
      split at h
      · cases h
      · next vs rest' hempty hrow =>
        obtain ⟨rfl, rfl⟩ := Prod.mk.inj (Option.some.inj h)
        obtain ⟨ds, hds, hdigits, hvs⟩ := digits_of_digitRow hrow
        have hvalue : ofDigits vs = decimal ds := by rw [hvs, ofDigits_map]
        refine ⟨e :: (s ++ ds), _, .present hletter hs ⟨ne_nil_of_map hvs hempty, hdigits⟩, ?_, ?_⟩
        · rw [hcs, hds, List.cons_append, List.append_assoc]
        · rw [hvalue]
          rfl
    · obtain ⟨rfl, rfl⟩ := Prod.mk.inj (Option.some.inj h)
      exact ⟨[], 0, .absent, rfl, rfl⟩
  · obtain ⟨rfl, rfl⟩ := Prod.mk.inj (Option.some.inj h)
    exact ⟨[], 0, .absent, rfl, rfl⟩

/-- An exponent is read to its end, in front of a text that ends the number. -/
theorem exponent_complete {x rest : List Char} {n : ℤ} (h : Exponent x n)
    (hrest : EndsNumber rest) : exponent (x ++ rest) = some (part x n, rest) := by
  cases h with
  | absent => exact exponent_of_endsNumber hrest
  | present he hs h =>
    simp only [List.cons_append, List.append_assoc]
    rw [exponent_append he (sign_complete hs h) h.1 h.2 fun c hc => (hrest c hc).1,
      ofDigits_map]
    rfl

theorem getD_part_fraction {f fs : List Char} (h : Fraction f fs) :
    (part f (fs.map digitValue)).getD [] = fs.map digitValue := by
  cases h <;> rfl

theorem getD_part_exponent {x : List Char} {n : ℤ} (h : Exponent x n) : (part x n).getD 0 = n := by
  cases h <;> rfl

def ofParts (negative : Bool) (vs : List ℕ) (fs : Option (List ℕ)) (e : Option ℤ) : Json :=
  if fs = none ∧ e = none then .integer (signed negative (ofDigits vs))
  else .real (.decimal ⟨negative, ofDigits (vs ++ fs.getD []), e.getD 0 - (fs.getD []).length⟩)

/-- A number is read part by part. -/
theorem magnitude_eq (negative : Bool) (cs : List Char) : magnitude negative cs = (do
    let (vs, cs) ← whole cs
    let (fs, cs) ← fraction cs
    let (e, cs) ← exponent cs
    return (ofParts negative vs fs e, cs)) := by
  refine bind_congr fun (vs, cs) => bind_congr fun (fs, cs) => bind_congr fun (e, cs) => ?_
  cases fs <;> cases e <;> rfl

theorem magnitude_eq_some {negative : Bool} {cs rest : List Char} {j : Json} :
    magnitude negative cs = some (j, rest) ↔
      ∃ vs cs' fs cs'' e, whole cs = some (vs, cs') ∧ fraction cs' = some (fs, cs'') ∧
        exponent cs'' = some (e, rest) ∧ ofParts negative vs fs e = j := by
  simp only [magnitude_eq, Option.bind_eq_bind, Option.bind_eq_some_iff, Prod.exists,
    Option.pure_def, Option.some.injEq, Prod.mk.injEq]
  constructor
  · intro h
    obtain ⟨vs, cs', hwhole, fs, cs'', hfraction, e, rest', hexponent, rfl, rfl⟩ := h
    exact ⟨vs, cs', fs, cs'', e, hwhole, hfraction, hexponent, rfl⟩
  · intro h
    obtain ⟨vs, cs', fs, cs'', e, hwhole, hfraction, hexponent, rfl⟩ := h
    exact ⟨vs, cs', hwhole, fs, cs'', hfraction, e, rest, hexponent, rfl, rfl⟩

theorem part_eq_none {α : Type} {t : List Char} {x : α} : part t x = none ↔ t = [] := by
  simp [part]

theorem ofParts_part (negative : Bool) (ds : List Char) {f fs x : List Char} {n : ℤ}
    (hf : Fraction f fs) (hx : Exponent x n) :
    ofParts negative (ds.map digitValue) (part f (fs.map digitValue)) (part x n) =
      if f ++ x = [] then .integer (signed negative (decimal ds))
      else .real (.decimal ⟨negative, decimal (ds ++ fs), n - fs.length⟩) := by
  simp only [ofParts, part_eq_none, getD_part_fraction hf, getD_part_exponent hx,
    ← List.map_append, ofDigits_map, List.length_map, List.append_eq_nil_iff]

/-- The grammar of numbers, with its parts that may be left out. -/
theorem magnitude_iff_parts {negative : Bool} {t : List Char} {j : Json} :
    Magnitude negative t j ↔
      ∃ ds f fs x n, Whole ds ∧ Fraction f fs ∧ Exponent x n ∧ ds ++ (f ++ x) = t ∧
        ofParts negative (ds.map digitValue) (part f (fs.map digitValue)) (part x n) = j := by
  constructor
  · intro h
    cases h with
    | @integer _ hds =>
      refine ⟨t, [], [], [], 0, hds, .absent, .absent, List.append_nil t, ?_⟩
      exact ofParts_part negative t .absent .absent
    | @real ds f fs x n hds hf hx hne =>
      refine ⟨ds, f, fs, x, n, hds, hf, hx, rfl, ?_⟩
      rw [ofParts_part negative ds hf hx, if_neg hne]
  · intro h
    obtain ⟨ds, f, fs, x, n, hds, hf, hx, rfl, rfl⟩ := h
    rw [ofParts_part negative ds hf hx]
    split_ifs with hnil
    · rw [hnil, List.append_nil]
      exact .integer hds
    · exact .real hds hf hx hnil

/-- What is read as a number is one. -/
theorem magnitude_sound {negative : Bool} {cs rest : List Char} {j : Json}
    (h : magnitude negative cs = some (j, rest)) :
    ∃ t, Magnitude negative t j ∧ cs = t ++ rest := by
  obtain ⟨vs, cs', fs, cs'', e, hwhole, hfraction, hexponent, rfl⟩ := magnitude_eq_some.mp h
  obtain ⟨ds, hds, rfl, rfl⟩ := whole_sound hwhole
  obtain ⟨f, fs, hf, rfl, rfl⟩ := fraction_sound hfraction
  obtain ⟨x, n, hx, rfl, rfl⟩ := exponent_sound hexponent
  exact ⟨_, magnitude_iff_parts.mpr ⟨ds, f, fs, x, n, hds, hf, hx, rfl, rfl⟩,
    by simp only [List.append_assoc]⟩

theorem isDigit_head_exponent {x rest : List Char} {n : ℤ} (h : Exponent x n)
    (hrest : EndsNumber rest) : ∀ c ∈ (x ++ rest).head?, c.isDigit = false ∧ c ≠ '.' := by
  intro c hc
  cases h with
  | absent => exact ⟨(hrest c hc).1, (hrest c hc).2.1⟩
  | present he =>
    obtain rfl := Option.some.inj hc
    rcases he with rfl | rfl <;> decide

theorem isDigit_head_fraction {f fs rest : List Char} (h : Fraction f fs)
    (hrest : ∀ c ∈ rest.head?, c.isDigit = false) :
    ∀ c ∈ (f ++ rest).head?, c.isDigit = false := by
  intro c hc
  cases h with
  | absent => exact hrest c hc
  | present h =>
    obtain rfl := Option.some.inj hc
    rfl

/-- A number is read in front of a text that ends it. -/
theorem magnitude_complete {negative : Bool} {t rest : List Char} {j : Json}
    (h : Magnitude negative t j) (hrest : EndsNumber rest) :
    magnitude negative (t ++ rest) = some (j, rest) := by
  obtain ⟨ds, f, fs, x, n, hds, hf, hx, rfl, rfl⟩ := magnitude_iff_parts.mp h
  have hexponent := isDigit_head_exponent hx hrest
  have hfraction := isDigit_head_fraction hf fun c hc => (hexponent c hc).1
  rw [List.append_assoc, List.append_assoc]
  exact magnitude_eq_some.mpr ⟨_, _, _, _, _, whole_complete hds hfraction,
    fraction_complete hf hexponent, exponent_complete hx hrest, rfl⟩

end VersionedStore.Json.Grammar
