import Mathlib
import VersionedStore.Proofs.Field.Numeral
import VersionedStore.Proofs.Number.Exact

/-!
Integers that are spelled loosely. A text may spell a number with white space
around it, with a plus sign, with zeros in front, with single underscores between
its digits, and with a fraction and an exponent. If such a text is read as an
integer at all, it is read as the number that it spells.
-/

namespace VersionedStore.Field

open Number
open VersionedStore.Json.Grammar

/-- A row of digits in which single underscores may stand between two digits, with
the digits alone. -/
inductive Row : List Char → List Char → Prop where
  | one {c : Char} (hc : c.isDigit = true) : Row [c] [c]
  | digit {c : Char} {r ds : List Char} (hc : c.isDigit = true) (h : Row r ds) :
    Row (c :: r) (c :: ds)
  | underscore {c : Char} {r ds : List Char} (hc : c.isDigit = true) (h : Row r ds) :
    Row (c :: '_' :: r) (c :: ds)

inductive Spells : List Char → Decimal → Prop where
  | mk {g s r ds f fs x g' : List Char} {negative : Bool} {e : ℤ}
    (hg : ∀ c ∈ g, Text.isSpace c = true) (hs : Sign s negative) (hr : Row r ds)
    (hf : Fraction f fs) (hx : Exponent x e) (hg' : ∀ c ∈ g', Text.isSpace c = true) :
    Spells (g ++ (s ++ (r ++ (f ++ x))) ++ g') ⟨negative, decimal (ds ++ fs), e - fs.length⟩

/-- Trimming takes white space away from both ends, and nothing else. -/
theorem trim_append {p : Char → Bool} {g cs g' : List Char} (hg : ∀ c ∈ g, p c = true)
    (hcs : ∀ c ∈ cs, p c = false) (hg' : ∀ c ∈ g', p c = true) :
    Text.trim p (g ++ cs ++ g') = cs := by
  have hkept : ∀ l : List Char, (∀ c ∈ l, p c = false) → l.dropWhile p = l := by
    intro l hl
    cases l with
    | nil => rfl
    | cons c l => exact List.dropWhile_cons_of_neg (by simp [hl c List.mem_cons_self])
  have hend : Text.trimEnd p (cs ++ g') = cs := by
    rw [Text.trimEnd, List.reverse_append,
      List.dropWhile_append_of_pos fun c hc => hg' c (List.mem_reverse.mp hc),
      hkept _ fun c hc => hcs c (List.mem_reverse.mp hc), List.reverse_reverse]
  rw [Text.trim, List.append_assoc, List.dropWhile_append_of_pos hg]
  cases cs with
  | nil =>
    rw [List.nil_append, List.dropWhile_eq_nil_iff.mpr hg']
    rfl
  | cons c cs =>
    rw [List.cons_append, List.dropWhile_cons_of_neg (by simp [hcs c List.mem_cons_self])]
    exact hend

theorem isSpace_of_isDigit {c : Char} (hc : c.isDigit = true) : Text.isSpace c = false := by
  have hrange : 48 ≤ c.toNat ∧ c.toNat ≤ 57 := Char.isDigit_iff_toNat.mp hc
  simp only [Text.isSpace, Bool.or_eq_false_iff, Bool.and_eq_false_iff, beq_eq_false_iff_ne,
    decide_eq_false_iff_not]
  omega

theorem decimal_cons_zero (ds : List Char) : decimal ('0' :: ds) = decimal ds := by
  rw [decimal, Nat.ofDigitChars_cons]
  rfl

/-- Zeros at the end multiply by powers of ten. -/
theorem decimal_append_zeros (ds : List Char) {fs : List Char} (hfs : ∀ c ∈ fs, c = '0') :
    decimal (ds ++ fs) = 10 ^ fs.length * decimal ds := by
  rw [decimal, Nat.ofDigitChars_append, List.eq_replicate_of_mem hfs,
    Nat.ofDigitChars_replicate_zero, List.length_replicate]
  rfl

def StartsPart (c : Char) : Prop := c = '.' ∨ c = 'e' ∨ c = 'E'

namespace Row

variable {r ds t cs : List Char}

theorem mem (h : Row r ds) : ∀ c ∈ r, c.isDigit = true ∨ c = '_' := by
  induction h with
  | one hc => exact List.forall_mem_singleton.mpr (.inl hc)
  | digit hc _ ih => exact List.forall_mem_cons.mpr ⟨.inl hc, ih⟩
  | underscore hc _ ih =>
    exact List.forall_mem_cons.mpr ⟨.inl hc, List.forall_mem_cons.mpr ⟨.inr rfl, ih⟩⟩

theorem exists_cons (h : Row r ds) :
    ∃ c r' ds', r = c :: r' ∧ ds = c :: ds' ∧ c.isDigit = true := by
  cases h with
  | one hc => exact ⟨_, _, _, rfl, rfl, hc⟩
  | digit hc => exact ⟨_, _, _, rfl, rfl, hc⟩
  | underscore hc => exact ⟨_, _, _, rfl, rfl, hc⟩

theorem ne_underscore {c : Char} (hc : c.isDigit = true) : c ≠ '_' := ne_of_isDigit hc rfl

theorem underscoresInside (h : Row r ds) (after : Bool) :
    Field.underscoresInside after r = true := by
  induction h generalizing after with
  | one hc => simp [Field.underscoresInside, ne_underscore hc]
  | digit hc _ ih => simp [Field.underscoresInside, ne_underscore hc, ih]
  | @underscore c r ds hc h ih =>
    obtain ⟨d, r', -, hr, -⟩ := h.exists_cons
    have hne : r ≠ [] := hr ▸ List.cons_ne_nil d r'
    simp [Field.underscoresInside, ne_underscore hc, ih, hne]

theorem filter_underscores (h : Row r ds) : r.filter (· != '_') = ds := by
  induction h with
  | one hc => simp [ne_underscore hc]
  | digit hc _ ih => simp [ne_underscore hc, ih]
  | underscore hc _ ih => simp [ne_underscore hc, ih]

/-- Underscores between digits are dropped, and the digits are left. -/
theorem withoutUnderscores? (h : Row r ds) : Field.withoutUnderscores? r = some ds := by
  rw [Field.withoutUnderscores?, if_pos (h.underscoresInside false), h.filter_underscores]

theorem afterZeros_digit {c : Char} (hc : c.isDigit = true) (hzero : c ≠ '0') (last : Char)
    (cs : List Char) : afterZeros last (c :: cs) = some (c :: cs) := by
  rw [afterZeros, if_neg (not_or.mpr ⟨hzero, ne_underscore hc⟩),
    if_neg (ne_of_isDigit hc rfl), if_pos (.inl hc)]

/-- Where nothing but a fraction or an exponent follows, the last zero stays. -/
theorem eq_cons_of_afterZeros {last : Char} (ht : ∀ c ∈ t.head?, StartsPart c)
    (h : afterZeros last t = some cs) : cs = last :: t := by
  cases t with
  | nil => exact (Option.some.inj h).symm
  | cons c t =>
    rcases ht c rfl with rfl | rfl | rfl
    · exact (Option.some.inj h).symm
    · cases h
    · cases h

/-- Zeros and underscores in front of a row do not count, so what is left of it
denotes the same numbers. -/
theorem exists_row_of_afterZeros (h : Row r ds) (ht : ∀ c ∈ t.head?, StartsPart c) {last : Char}
    (hafter : afterZeros last (r ++ t) = some cs) :
    ∃ r' ds', cs = r' ++ t ∧ Row r' ds' ∧ ∀ fs, decimal (ds' ++ fs) = decimal (ds ++ fs) := by
  -- A zero goes away and the scan goes on behind it; any other digit ends the scan.
  induction h generalizing last with
  | @one c hc =>
    by_cases hzero : c = '0'
    · subst hzero
      exact ⟨_, _, eq_cons_of_afterZeros ht hafter, .one rfl, fun _ => rfl⟩
    · rw [List.cons_append, afterZeros_digit hc hzero] at hafter
      exact ⟨[c], [c], (Option.some.inj hafter).symm, .one hc, fun _ => rfl⟩
  | @digit c r ds hc h ih =>
    by_cases hzero : c = '0'
    · subst hzero
      obtain ⟨r', ds', hcs, hrow, hvalue⟩ := ih hafter
      exact ⟨r', ds', hcs, hrow, fun fs => (hvalue fs).trans (decimal_cons_zero _).symm⟩
    · rw [List.cons_append, afterZeros_digit hc hzero] at hafter
      exact ⟨c :: r, c :: ds, (Option.some.inj hafter).symm, .digit hc h, fun _ => rfl⟩
  | @underscore c r ds hc h ih =>
    by_cases hzero : c = '0'
    · subst hzero
      obtain ⟨r', ds', hcs, hrow, hvalue⟩ := ih hafter
      exact ⟨r', ds', hcs, hrow, fun fs => (hvalue fs).trans (decimal_cons_zero _).symm⟩
    · rw [List.cons_append, afterZeros_digit hc hzero] at hafter
      exact ⟨c :: '_' :: r, c :: ds, (Option.some.inj hafter).symm, .underscore hc h,
        fun _ => rfl⟩

theorem withoutZeros_eq (h : Row r ds) (t : List Char) :
    withoutZeros (r ++ t) = afterZeros '0' (r ++ t) := by
  obtain ⟨c, r', -, rfl, -, hc⟩ := h.exists_cons
  by_cases hzero : c = '0'
  · subst hzero
    rfl
  · rw [List.cons_append, afterZeros_digit hc hzero, withoutZeros, if_neg hzero, if_pos hc]

end Row

section Tail

variable {f fs x : List Char} {e : ℤ}

/-- What follows a row starts with a character that no row has. -/
theorem startsPart_of_mem_head? (hf : Fraction f fs) (hx : Exponent x e) :
    ∀ c ∈ (f ++ x).head?, StartsPart c := by
  intro c hc
  cases hf with
  | absent =>
    cases hx with
    | absent => cases hc
    | present he =>
      obtain rfl := Option.some.inj hc
      exact .inr he
  | present =>
    obtain rfl := Option.some.inj hc
    exact .inl rfl

theorem mem_sign {s : List Char} {negative : Bool} (h : Sign s negative) :
    ∀ c ∈ s, c = '+' ∨ c = '-' := by
  cases h <;> simp

theorem not_isSpace_of_sign {s : List Char} {negative : Bool} (h : Sign s negative) :
    ∀ c ∈ s, Text.isSpace c = false := by
  intro c hc
  rcases mem_sign h c hc with rfl | rfl <;> rfl

theorem not_isSpace_of_fraction (hf : Fraction f fs) : ∀ c ∈ f, Text.isSpace c = false := by
  cases hf with
  | absent => simp
  | present h =>
    exact List.forall_mem_cons.mpr ⟨by decide, fun c hc => isSpace_of_isDigit (h.2 c hc)⟩

theorem not_isSpace_of_exponent (hx : Exponent x e) : ∀ c ∈ x, Text.isSpace c = false := by
  cases hx with
  | absent => simp
  | present he hs h =>
    refine List.forall_mem_cons.mpr ⟨by rcases he with rfl | rfl <;> decide, ?_⟩
    exact List.forall_mem_append.mpr
      ⟨not_isSpace_of_sign hs, fun c hc => isSpace_of_isDigit (h.2 c hc)⟩

/-- The only point of a number is in front of its exponent. -/
theorem ne_point_of_exponent (hx : Exponent x e) : ∀ c ∈ x, c ≠ '.' := by
  cases hx with
  | absent => simp
  | present he hs h =>
    refine List.forall_mem_cons.mpr ⟨by rcases he with rfl | rfl <;> decide, ?_⟩
    exact List.forall_mem_append.mpr
      ⟨fun c hc => by rcases mem_sign hs c hc with rfl | rfl <;> decide,
        fun c hc => ne_of_isDigit (h.2 c hc) rfl⟩

theorem sign_of_isDigit {s cs : List Char} {negative : Bool} {c : Char} (hs : Sign s negative)
    (hc : c.isDigit = true) : sign (s ++ c :: cs) = (negative, c :: cs) := by
  have hfirst : Digits [c] := ⟨List.cons_ne_nil c [], List.forall_mem_singleton.mpr hc⟩
  apply sign_complete hs hfirst

/-- A fraction is left out just if it has no digit but zeros and no exponent
follows. -/
theorem withoutFraction_row {r ds : List Char} (hr : Row r ds) (hf : Fraction f fs)
    (hx : Exponent x e) :
    (x = [] ∧ (∀ c ∈ fs, c = '0') ∧ withoutFraction (r ++ (f ++ x)) = r) ∨
      (f ++ x ≠ [] ∧ withoutFraction (r ++ (f ++ x)) = r ++ (f ++ x)) := by
  have hpoint : ∀ c ∈ r, (c != '.') = true := by
    intro c hc
    rcases hr.mem c hc with hdigit | rfl
    · simpa using ne_of_isDigit hdigit rfl
    · rfl
  cases hf with
  | absent =>
    have hall : ∀ c ∈ r ++ ([] ++ x), (c != '.') = true := by
      intro c hc
      rcases List.mem_append.mp hc with hc | hc
      · exact hpoint c hc
      · simpa using ne_point_of_exponent hx c hc
    have hsame : withoutFraction (r ++ ([] ++ x)) = r ++ ([] ++ x) := by
      rw [withoutFraction, List.span_eq_takeWhile_dropWhile, List.takeWhile_eq_self_iff.mpr hall,
        List.dropWhile_eq_nil_iff.mpr hall]
    by_cases hempty : x = []
    · subst hempty
      exact .inl ⟨rfl, by simp, by simpa using hsame⟩
    · exact .inr ⟨hempty, hsame⟩
  | present h =>
    have hspan : (r ++ ('.' :: fs ++ x)).span (· != '.') = (r, '.' :: (fs ++ x)) := by
      rw [List.span_eq_takeWhile_dropWhile, List.takeWhile_append_of_pos hpoint,
        List.dropWhile_append_of_pos hpoint]
      simp
    have hne : fs ++ x ≠ [] := List.append_ne_nil_of_left_ne_nil h.1 x
    have hall : (!(fs ++ x).isEmpty && (fs ++ x).all (· == '0')) = true ↔
        ∀ c ∈ fs ++ x, c = '0' := by
      simp only [Bool.and_eq_true, Bool.not_eq_true', List.isEmpty_eq_false_iff,
        List.all_eq_true, beq_iff_eq]
      exact and_iff_right hne
    rw [withoutFraction, hspan]
    by_cases hzeros : ∀ c ∈ fs ++ x, c = '0'
    · refine .inl ⟨?_, fun c hc => hzeros c (List.mem_append_left x hc), ?_⟩
      · cases hx with
        | absent => rfl
        | @present c _ _ _ he =>
          have hc : c = '0' := hzeros c (List.mem_append_right fs List.mem_cons_self)
          subst hc
          rcases he with he | he <;> cases he
      · exact if_pos (hall.mpr hzeros)
    · exact .inr ⟨List.cons_ne_nil _ _, if_neg (mt hall.mp hzeros)⟩

end Tail

/-- A text with or without a minus sign that is read plainly as an integer holds
the digits of this integer. -/
theorem eq_of_plainInteger {negative : Bool} {c : Char} {cs : List Char} {n : ℤ}
    (hc : c.isDigit = true)
    (h : plainInteger (if negative then '-' :: c :: cs else c :: cs) = .integer n) :
    (∀ d ∈ c :: cs, d.isDigit = true) ∧ n = signed negative (decimal (c :: cs)) := by
  have hminus : minus (if negative then '-' :: c :: cs else c :: cs) = (negative, c :: cs) := by
    have hne : c ≠ '-' := ne_of_isDigit hc rfl
    cases negative with
    | true => rfl
    | false => simp [minus, hne]
  obtain ⟨_, _, heq, hwhole, rfl⟩ := plainInteger_eq_integer_iff.mp h
  obtain ⟨rfl, rfl⟩ := Prod.mk.inj (hminus.symm.trans heq)
  exact ⟨hwhole.digits.2, rfl⟩

/-- No text that is read plainly as an integer has other characters than digits,
apart from a minus sign. -/
theorem mem_of_plainInteger {negative : Bool} {cs : List Char} {n : ℤ}
    (h : plainInteger (if negative then '-' :: cs else cs) = .integer n) :
    ∀ c ∈ cs, c = '-' ∨ c.isDigit = true := by
  intro c hc
  obtain ⟨b, ds, hminus, hwhole, -⟩ := plainInteger_eq_integer_iff.mp h
  have hrest : ∀ c ∈ cs, c = '-' ∨ c ∈ ds := by
    cases negative with
    | true =>
      obtain ⟨-, rfl⟩ := Prod.mk.inj hminus
      exact fun c hc => .inr hc
    | false =>
      rw [if_neg (by simp), minus.eq_def] at hminus
      split at hminus <;> obtain ⟨-, rfl⟩ := Prod.mk.inj hminus
      · exact fun c hc => List.mem_cons.mp hc
      · exact fun c hc => .inr hc
  exact (hrest c hc).imp_right (hwhole.digits.2 c)

theorem mem_getD_withoutUnderscores? {cs : List Char} {c : Char} (hc : c ∈ cs) (hne : c ≠ '_') :
    c ∈ (withoutUnderscores? cs).getD cs := by
  unfold withoutUnderscores?
  split_ifs
  · exact List.mem_filter.mpr ⟨hc, by simpa using hne⟩
  · exact hc

theorem not_isDigit_of_startsPart {c : Char} (h : StartsPart c) :
    c.isDigit = false ∧ c ≠ '_' ∧ c ≠ '-' := by
  rcases h with rfl | rfl | rfl <;> decide

/-- A fraction of zeros does not change a number. -/
theorem value_of_zeros (negative : Bool) (ds : List Char) {fs : List Char}
    (hfs : ∀ c ∈ fs, c = '0') :
    Decimal.value ⟨negative, decimal (ds ++ fs), 0 - fs.length⟩ = signed negative (decimal ds) := by
  have hpow : (10 : ℚ) ^ fs.length ≠ 0 := pow_ne_zero _ (by norm_num)
  rw [Decimal.value, decimal_append_zeros ds hfs, cast_signed, cast_signed, zero_sub, zpow_neg,
    zpow_natCast, Nat.cast_mul, Nat.cast_pow, Nat.cast_ofNat]
  field_simp

section Spelled

variable {g s r ds f fs x g' : List Char} {negative : Bool} {e : ℤ}

/-- The plain text that is made of the rest of a text after its sign and the zeros
in front. -/
def tidied (negative : Bool) (cs : List Char) : List Char :=
  let cs := withoutFraction cs
  let cs := (withoutUnderscores? cs).getD cs
  if negative then '-' :: cs else cs

/-- White space and sign are taken off in front of the zeros. -/
theorem tidy_parts (hg : ∀ c ∈ g, Text.isSpace c = true) (hs : Sign s negative) (hr : Row r ds)
    (hf : Fraction f fs) (hx : Exponent x e) (hg' : ∀ c ∈ g', Text.isSpace c = true) :
    tidy (g ++ (s ++ (r ++ (f ++ x))) ++ g') =
      (withoutZeros (r ++ (f ++ x))).map (tidied negative) := by
  have hrow : ∀ c ∈ r, Text.isSpace c = false := by
    intro c hc
    rcases hr.mem c hc with hdigit | rfl
    · exact isSpace_of_isDigit hdigit
    · rfl
  have hspaces : ∀ c ∈ s ++ (r ++ (f ++ x)), Text.isSpace c = false := by
    simp only [List.forall_mem_append]
    exact ⟨not_isSpace_of_sign hs, hrow, not_isSpace_of_fraction hf, not_isSpace_of_exponent hx⟩
  have hsign : sign (s ++ (r ++ (f ++ x))) = (negative, r ++ (f ++ x)) := by
    obtain ⟨c, r', -, rfl, -, hc⟩ := hr.exists_cons
    exact sign_of_isDigit hs hc
  rw [tidy, trim_append hg hspaces hg', hsign]
  rfl

/-- If the rest of a text is plain, it holds nothing but a row and a fraction of
zeros. -/
theorem of_plainInteger_tidied (hr : Row r ds) (hf : Fraction f fs) (hx : Exponent x e) {n : ℤ}
    (h : plainInteger (tidied negative (r ++ (f ++ x))) = .integer n) :
    x = [] ∧ (∀ c ∈ fs, c = '0') ∧ n = signed negative (decimal ds) := by
  rcases withoutFraction_row hr hf hx with ⟨hempty, hzeros, hwhole⟩ | ⟨hne, hwhole⟩
  · obtain ⟨c, -, ds', -, rfl, hc⟩ := hr.exists_cons
    rw [tidied, hwhole, hr.withoutUnderscores?] at h
    exact ⟨hempty, hzeros, (eq_of_plainInteger hc h).2⟩
  -- What starts the fraction or the exponent is left in the text, which is not plain then.
  · obtain ⟨p, t, ht⟩ := List.exists_cons_of_ne_nil hne
    obtain ⟨hdigit, hunderscore, hminus⟩ :=
      not_isDigit_of_startsPart (startsPart_of_mem_head? hf hx p (by rw [ht]; rfl))
    have hp : p ∈ r ++ (f ++ x) := by simp [ht]
    rw [tidied, hwhole] at h
    rcases mem_of_plainInteger h p (mem_getD_withoutUnderscores? hp hunderscore) with hp | hp
    · exact absurd hp hminus
    · simp [hdigit] at hp

end Spelled

/-- A text that spells a number is tidied to the digits of this number, if it is
tidied to the plain text of any integer. -/
theorem value_of_tidy {cs : List Char} {d : Decimal} {n : ℤ} (hspells : Spells cs d)
    (h : (tidy cs).map plainInteger = some (.integer n)) : (n : ℚ) = d.value := by
  obtain @⟨g, s, r, ds, f, fs, x, g', negative, e, hg, hs, hr, hf, hx, hg'⟩ := hspells
  rw [tidy_parts hg hs hr hf hx hg', hr.withoutZeros_eq, Option.map_map,
    Option.map_eq_some_iff] at h
  obtain ⟨cs, hcs, hplain⟩ := h
  obtain ⟨r', ds', rfl, hr', hvalue⟩ :=
    hr.exists_row_of_afterZeros (startsPart_of_mem_head? hf hx) hcs
  obtain ⟨rfl, hzeros, rfl⟩ := of_plainInteger_tidied hr' hf hx hplain
  cases hx
  rw [← hvalue fs, value_of_zeros negative ds' hzeros]

theorem row_of_digits {ds : List Char} (h : Digits ds) : Row ds ds := by
  obtain ⟨hne, hdigits⟩ := h
  induction ds with
  | nil => exact absurd rfl hne
  | cons c ds ih =>
    obtain ⟨hc, hds⟩ := List.forall_mem_cons.mp hdigits
    by_cases hnil : ds = []
    · subst hnil
      exact .one hc
    · exact .digit hc (ih hnil hds)

/-- A whole part has no zeros in front that could be taken off. -/
theorem withoutZeros_of_whole {ds : List Char} (h : Whole ds) : withoutZeros ds = some ds := by
  obtain ⟨c, ds, rfl⟩ := List.exists_cons_of_ne_nil h.digits.1
  by_cases hzero : c = '0'
  · subst hzero
    obtain ⟨-, rfl⟩ := List.cons.inj (h.zero rfl)
    rfl
  · rw [withoutZeros, if_neg hzero, if_pos (h.digits.2 c List.mem_cons_self)]

theorem tidied_of_digits {ds : List Char} (h : Digits ds) (negative : Bool) :
    tidied negative ds = if negative then '-' :: ds else ds := by
  have hrow := row_of_digits h
  have hwhole : withoutFraction (ds ++ ([] ++ [])) = ds := by
    rcases withoutFraction_row hrow .absent .absent with ⟨-, -, h⟩ | ⟨h, -⟩
    · exact h
    · exact absurd rfl h
  rw [List.append_nil, List.append_nil] at hwhole
  rw [tidied, hwhole, hrow.withoutUnderscores?]
  rfl

theorem exists_sign_of_minus {cs ds : List Char} {negative : Bool}
    (h : minus cs = (negative, ds)) :
    ∃ s, Sign s negative ∧ cs = s ++ ds ∧ cs = if negative then '-' :: ds else ds := by
  unfold minus at h
  split at h <;> obtain ⟨rfl, rfl⟩ := Prod.mk.inj h
  · exact ⟨_, .minus, rfl, rfl⟩
  · exact ⟨_, .absent, rfl, rfl⟩

/-- The plain text of an integer is tidy. -/
theorem tidy_of_plainInteger {cs : List Char} {n : ℤ} (h : plainInteger cs = .integer n) :
    tidy cs = some cs := by
  obtain ⟨negative, ds, hminus, hwhole, -⟩ := plainInteger_eq_integer_iff.mp h
  obtain ⟨s, hs, hcs, hcs'⟩ := exists_sign_of_minus hminus
  have hnone : ∀ c ∈ ([] : List Char), Text.isSpace c = true := by simp
  have htidy := tidy_parts hnone hs (row_of_digits hwhole.digits) .absent .absent hnone
  simp only [List.nil_append, List.append_nil] at htidy
  rw [hcs, htidy, withoutZeros_of_whole hwhole, Option.map_some,
    tidied_of_digits hwhole.digits, ← hcs', hcs]

/-- A text that spells a number is read as this number, if it is read as an integer. -/
theorem value_of_integerOfText {text : String} {d : Decimal} {n : ℤ}
    (hspells : Spells text.toList d) (h : integerOfText text = .ok n) : (n : ℚ) = d.value := by
  refine value_of_tidy hspells ?_
  rcases integerOfText_eq_ok_iff.mp h with h | ⟨-, h⟩
  · rw [tidy_of_plainInteger h, Option.map_some, h]
  · exact h

end VersionedStore.Field
