import VersionedStore.Proofs.Json.Grammar
import VersionedStore.Proofs.Json.Quoted

/-!
The reader of strings against the grammar. The reader splits the text of a
string into units first and joins the halves of pairs afterwards. Accordingly
the text is related to its units by the way they are spelled, and the units are
related to the characters they join to.
-/

namespace VersionedStore.Json.Grammar

theorem hexDigit_of_lt : ∀ n, n < 128 → ∀ v, hexValue? (Char.ofNat n) = some v →
    v < 16 ∧ (Char.ofNat n = Nat.digitChar v ∨ Char.ofNat n = (Nat.digitChar v).toUpper) := by
  decide

theorem hexValue?_digitChar : ∀ v, v < 16 → hexValue? (Nat.digitChar v) = some v ∧
    hexValue? (Nat.digitChar v).toUpper = some v := by
  decide

theorem lt_of_hexValue? {c : Char} {v : ℕ} (h : hexValue? c = some v) : c.toNat < 128 := by
  unfold hexValue? at h
  split_ifs at h with hdigit hlower hupper
  · exact Nat.lt_of_le_of_lt (Char.isDigit_iff_toNat.mp hdigit).2 (by decide)
  · simp only [Bool.and_eq_true, decide_eq_true_eq] at hlower
    exact Nat.lt_of_le_of_lt hlower.2 (by decide)
  · simp only [Bool.and_eq_true, decide_eq_true_eq] at hupper
    exact Nat.lt_of_le_of_lt hupper.2 (by decide)

/-- The digits of escapes are those of the grammar, in either case of letters. -/
theorem hexValue?_iff {c : Char} {v : ℕ} : hexValue? c = some v ↔ HexDigit c v := by
  constructor
  · intro h
    have hdigit := hexDigit_of_lt c.toNat (lt_of_hexValue? h) v
    rw [Char.ofNat_toNat] at hdigit
    exact hdigit h
  · intro h
    obtain ⟨hv, rfl | rfl⟩ := h
    · exact (hexValue?_digitChar v hv).1
    · exact (hexValue?_digitChar v hv).2

theorem hexUnit?_iff {a b c d : Char} {n : ℕ} : hexUnit? a b c d = some n ↔ Hex a b c d n := by
  simp only [hexUnit?, Option.bind_eq_bind, Option.bind_eq_some_iff, hexValue?_iff, Hex,
    Option.pure_def, Option.some.injEq]
  constructor
  · intro h
    obtain ⟨i, hi, j, hj, k, hk, l, hl, hn⟩ := h
    exact ⟨i, j, k, l, hi, hj, hk, hl, hn.symm⟩
  · intro h
    obtain ⟨i, j, k, l, hi, hj, hk, hl, hn⟩ := h
    exact ⟨i, hi, j, hj, k, hk, l, hl, hn.symm⟩

theorem shortEscape?_iff {e c : Char} : shortEscape? e = some c ↔ (e, c) ∈ shortEscapes := by
  constructor
  · intro h
    unfold shortEscape? at h
    split_ifs at h with hself hb hf hn hr ht
    · obtain rfl := Option.some.inj h
      rcases hself with rfl | rfl | rfl <;> decide
    all_goals
      obtain rfl := Option.some.inj h
      subst e
      decide
  · intro h
    simp only [shortEscapes, List.mem_cons, List.not_mem_nil, or_false, Prod.mk.injEq] at h
    rcases h with ⟨rfl, rfl⟩ | ⟨rfl, rfl⟩ | ⟨rfl, rfl⟩ | ⟨rfl, rfl⟩ | ⟨rfl, rfl⟩ | ⟨rfl, rfl⟩ |
      ⟨rfl, rfl⟩ | ⟨rfl, rfl⟩ <;> rfl

inductive Spelled : List Char → List Unit16 → Prop where
  | nil : Spelled [] []
  | plain {c : Char} {t : List Char} {us : List Unit16} (hcontrol : 0x20 ≤ c.toNat)
    (hquote : c ≠ '"') (hslash : c ≠ '\\') (h : Spelled t us) : Spelled (c :: t) (.plain c :: us)
  | short {e c : Char} {t : List Char} {us : List Unit16} (he : (e, c) ∈ shortEscapes)
    (h : Spelled t us) : Spelled ('\\' :: e :: t) (.plain c :: us)
  | escaped {a b c d : Char} {n : ℕ} {t : List Char} {us : List Unit16} (hn : Hex a b c d n)
    (h : Spelled t us) : Spelled ('\\' :: 'u' :: a :: b :: c :: d :: t) (.escaped n :: us)

/-- Units are read of a text that spells them, up to the first bare quote. -/
theorem spelled_of_units {cs rest : List Char} {us : List Unit16}
    (h : units cs = some (us, rest)) : ∃ t, cs = t ++ '"' :: rest ∧ Spelled t us := by
  induction cs using units.induct generalizing us rest with
  | case1 => simp [units] at h
  | case2 cs =>
    obtain ⟨rfl, rfl⟩ : [] = us ∧ cs = rest := by simpa [units] using h
    exact ⟨[], rfl, .nil⟩
  | case3 a b c d cs n us' rest' hcs hn ih =>
    obtain ⟨rfl, rfl⟩ : .escaped n :: us' = us ∧ rest' = rest := by
      simpa [units, hn, hcs] using h
    obtain ⟨t, rfl, ht⟩ := ih hcs
    exact ⟨_, rfl, .escaped (hexUnit?_iff.mp hn) ht⟩
  | case4 a b c d cs hfail ih =>
    rw [units] at h
    split at h
    · next n us' rest' hn hcs => exact absurd hcs (fun hcs => hfail n us' rest' hn hcs)
    · cases h
  | case5 e cs hunit c us' rest' hcs hc ih =>
    obtain ⟨rfl, rfl⟩ : .plain c :: us' = us ∧ rest' = rest := by
      rw [units] at h
      · simpa [hc, hcs] using h
      · exact hunit
    obtain ⟨t, rfl, ht⟩ := ih hcs
    exact ⟨_, rfl, .short (shortEscape?_iff.mp hc) ht⟩
  | case6 e cs hunit hfail ih =>
    rw [units] at h
    · split at h
      · next c us' rest' hc hcs => exact absurd hcs (fun hcs => hfail c us' rest' hc hcs)
      · cases h
    · exact hunit
  | case7 c cs hquote hunit hshort hbad =>
    rw [units, if_pos hbad] at h
    · cases h
    all_goals assumption
  | case8 c cs hquote hunit hshort hgood ih =>
    rw [units, if_neg hgood] at h
    · obtain ⟨p, hcs, hp⟩ := Option.map_eq_some_iff.mp h
      obtain ⟨rfl, rfl⟩ := Prod.mk.inj hp
      obtain ⟨t, rfl, ht⟩ := ih hcs
      have hcontrol : 0x20 ≤ c.toNat ∧ c ≠ '\\' := by simpa using hgood
      exact ⟨_, rfl, .plain hcontrol.1 hquote hcontrol.2 ht⟩
    all_goals assumption

/-- A text that spells units is read as these units. -/
theorem units_of_spelled {t : List Char} {us : List Unit16} (h : Spelled t us) (rest : List Char) :
    units (t ++ '"' :: rest) = some (us, rest) := by
  induction h with
  | nil => simp [units]
  | plain hcontrol hquote hslash _ ih => exact units_plain ih (by omega) hquote hslash
  | short he _ ih =>
    have hu : ∀ p ∈ shortEscapes, p.1 ≠ 'u' := by decide
    exact units_short ih (hu _ he) (shortEscape?_iff.mpr he)
  | escaped hn _ ih => exact units_hex ih (hexUnit?_iff.mpr hn)

theorem hex_lt {a b c d : Char} {n : ℕ} (h : Hex a b c d n) : n < 0x10000 := by
  obtain ⟨i, j, k, l, hi, hj, hk, hl, rfl⟩ := h
  have := hi.1
  have := hj.1
  have := hk.1
  have := hl.1
  omega

theorem toNat_ofNat {n : ℕ} (hn : n.isValidChar) : (Char.ofNat n).toNat = n := by
  rw [Char.ofNat, dif_pos hn]
  rfl

theorem isHighHalf_iff {n : ℕ} : isHighHalf n = true ↔ 0xd800 ≤ n ∧ n < 0xdc00 := by
  simp [isHighHalf]

theorem isLowHalf_iff {n : ℕ} : isLowHalf n = true ↔ 0xdc00 ≤ n ∧ n < 0xe000 := by
  simp [isLowHalf]

theorem isValidChar_of_not_half {n : ℕ} (hn : n < 0x10000) (hhigh : ¬isHighHalf n = true)
    (hlow : ¬isLowHalf n = true) : n.isValidChar := by
  rw [isHighHalf_iff] at hhigh
  rw [isLowHalf_iff] at hlow
  simp only [Nat.isValidChar]
  omega

/-- Two halves make up a character beyond the first plane. -/
theorem toNat_joinHalves {high low : ℕ} (hhigh : isHighHalf high = true)
    (hlow : isLowHalf low = true) :
    (joinHalves high low).toNat = 0x10000 + (high - 0xd800) * 0x400 + (low - 0xdc00) := by
  rw [isHighHalf_iff] at hhigh
  rw [isLowHalf_iff] at hlow
  refine toNat_ofNat ?_
  simp only [Nat.isValidChar]
  omega

/-- Units that join to characters are spelled as these. The induction follows
the joining, which takes two units for a pair. -/
theorem characters_of_spelled {t s : List Char} {us : List Unit16} (ht : Spelled t us)
    (hs : join? us = some s) : Characters t s := by
  induction us using join?.induct generalizing t s with
  | case1 =>
    cases ht
    obtain rfl : [] = s := by simpa [join?] using hs
    exact .nil
  | case2 c us ih =>
    obtain ⟨s', hs', rfl⟩ := Option.map_eq_some_iff.mp (by simpa only [join?] using hs)
    cases ht with
    | plain hcontrol hquote hslash ht => exact .plain hcontrol hquote hslash (ih ht hs')
    | short he ht => exact .short he (ih ht hs')
  | case3 n hhigh m us hlow ih =>
    simp only [join?, hhigh, hlow, if_true] at hs
    obtain ⟨s', hs', rfl⟩ := Option.map_eq_some_iff.mp hs
    cases ht with
    | escaped hn ht =>
      cases ht with
      | escaped hm ht =>
        exact .pair hn hm (isHighHalf_iff.mp hhigh) (isLowHalf_iff.mp hlow)
          (toNat_joinHalves hhigh hlow) (ih ht hs')
  | case4 n hhigh m us hlow => simp [join?, hhigh, hlow] at hs
  | case5 n us hhigh hnext =>
    rw [join?, if_pos hhigh] at hs
    · cases hs
    · exact hnext
  | case6 n us hhigh hlow =>
    rw [join?.eq_def] at hs
    simp [hhigh, hlow] at hs
  | case7 n us hhigh hlow ih =>
    rw [join?.eq_def] at hs
    simp only [hhigh, hlow, Bool.false_eq_true, if_false] at hs
    obtain ⟨s', hs', rfl⟩ := Option.map_eq_some_iff.mp hs
    cases ht with
    | escaped hn ht =>
      have hx := toNat_ofNat (isValidChar_of_not_half (hex_lt hn) hhigh hlow)
      exact .unit (hx.symm ▸ hn) (ih ht hs')

/-- A string of the grammar has no half without its partner, so its units join. -/
theorem exists_spelled_of_characters {t s : List Char} (h : Characters t s) :
    ∃ us, Spelled t us ∧ join? us = some s := by
  induction h with
  | nil => exact ⟨[], .nil, rfl⟩
  | plain hcontrol hquote hslash _ ih =>
    obtain ⟨us, hus, hjoin⟩ := ih
    exact ⟨_, .plain hcontrol hquote hslash hus, join?_plain hjoin⟩
  | short he _ ih =>
    obtain ⟨us, hus, hjoin⟩ := ih
    exact ⟨_, .short he hus, join?_plain hjoin⟩
  | unit hx _ ih =>
    obtain ⟨us, hus, hjoin⟩ := ih
    exact ⟨_, .escaped hx hus, join?_escaped hjoin⟩
  | @pair _ _ _ _ _ _ _ _ x high low _ _ hhigh hlow hrange hrange' hx _ ih =>
    obtain ⟨us, hus, hjoin⟩ := ih
    refine ⟨_, .escaped hhigh (.escaped hlow hus), ?_⟩
    have hjoined : joinHalves high low = x := by rw [joinHalves, ← hx, Char.ofNat_toNat]
    simp [join?, isHighHalf_iff.mpr hrange, isLowHalf_iff.mpr hrange', hjoin, hjoined]

/-- What is read between quotes is a string of the grammar. -/
theorem quoted_sound {cs rest : List Char} {x : String} (h : quoted cs = some (x, rest)) :
    ∃ t s, Characters t s ∧ cs = t ++ '"' :: rest ∧ x = String.ofList s := by
  obtain ⟨⟨us, rest'⟩, hunits, h⟩ := Option.bind_eq_some_iff.mp h
  obtain ⟨s, hjoin, h⟩ := Option.bind_eq_some_iff.mp h
  obtain ⟨rfl, rfl⟩ := Prod.mk.inj (Option.some.inj h)
  obtain ⟨t, rfl, ht⟩ := spelled_of_units hunits
  exact ⟨t, s, characters_of_spelled ht hjoin, rfl, rfl⟩

/-- A string of the grammar is read up to its quote. -/
theorem quoted_complete {t s : List Char} (h : Characters t s) (rest : List Char) :
    quoted (t ++ '"' :: rest) = some (String.ofList s, rest) := by
  obtain ⟨us, hus, hjoin⟩ := exists_spelled_of_characters h
  simp only [quoted, units_of_spelled hus rest, hjoin, Option.bind_eq_bind, Option.bind_some,
    Option.pure_def]

end VersionedStore.Json.Grammar
