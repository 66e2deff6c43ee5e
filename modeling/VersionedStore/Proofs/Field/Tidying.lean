import VersionedStore.Proofs.Field.Spelling
import VersionedStore.Proofs.Text.Trimming

/-!
How the text of an integer is tidied. Zeros and underscores in front of the digits are
left out, and so are a fraction of zeros and the underscores between the digits. A
minus sign may stand behind the zeros, too. What can be tidied to the digits of an
integer is a row of digits with such things around it, and nothing else.
-/

namespace VersionedStore.Field

open Number
open VersionedStore.Json.Grammar

def Padding (z : List Char) : Prop :=
  z.head? = some '0' ∧ ∀ c ∈ z, c = '0' ∨ c = '_'

inductive Loose (negative : Bool) : List Char → ℤ → Prop where
  | zero {z : List Char} (hz : Padding z) (hlast : z.getLast? = some '0') : Loose negative z 0
  | digits {z r ds : List Char} (hz : z = [] ∨ Padding z) (hr : Row r ds)
    (hfirst : ds.head? ≠ some '0') (hshort : ds.length ≤ 4300) :
    Loose negative (z ++ r) (signed negative (decimal ds))
  | minus {z u r ds : List Char} (hsign : negative = false) (hz : Padding z)
    (hu : u = [] ∨ u = ['_']) (hr : Row r ds) (hds : Whole ds) :
    Loose negative (z ++ '-' :: (u ++ r)) (-decimal ds)

section Fraction

variable {cs f fs r : List Char}

theorem withoutFraction_of_forall (h : ∀ c ∈ cs, c ≠ '.') : withoutFraction cs = cs := by
  have hall : ∀ c ∈ cs, (c != '.') = true := fun c hc => by simpa using h c hc
  rw [withoutFraction, List.span_eq_takeWhile_dropWhile, List.takeWhile_eq_self_iff.mpr hall,
    List.dropWhile_eq_nil_iff.mpr hall]

/-- What is left out is a fraction of zeros. -/
theorem withoutFraction_sound (cs : List Char) :
    ∃ f fs, Fraction f fs ∧ (∀ c ∈ fs, c = '0') ∧ cs = withoutFraction cs ++ f := by
  rcases hspan : cs.span (· != '.') with ⟨whole, rest⟩
  obtain ⟨hcs, -, hrest⟩ := Text.span_eq hspan
  cases rest with
  | nil =>
    refine ⟨[], [], .absent, by simp, ?_⟩
    rw [withoutFraction, hspan, List.append_nil]
  | cons c zs =>
    obtain rfl : c = '.' := by simpa using hrest c rfl
    rw [withoutFraction, hspan]
    dsimp only
    split_ifs with hzeros
    · simp only [Bool.and_eq_true, Bool.not_eq_true', List.isEmpty_eq_false_iff, List.all_eq_true,
        beq_iff_eq] at hzeros
      obtain ⟨hne, hzeros⟩ := hzeros
      refine ⟨'.' :: zs, zs, .present ⟨hne, fun c hc => ?_⟩, hzeros, hcs⟩
      rw [hzeros c hc]
      rfl
    · exact ⟨[], [], .absent, by simp, (List.append_nil cs).symm⟩

/-- A fraction of zeros is dropped behind a text without a point. -/
theorem withoutFraction_append (hr : ∀ c ∈ r, c ≠ '.') (hf : Fraction f fs)
    (hzeros : ∀ c ∈ fs, c = '0') : withoutFraction (r ++ f) = r := by
  cases hf with
  | absent => rw [List.append_nil, withoutFraction_of_forall hr]
  | present h =>
    have hspan : (r ++ '.' :: fs).span (· != '.') = (r, '.' :: fs) :=
      Text.span_append (fun c hc => by simpa using hr c hc) (by simp)
    have hall : (!fs.isEmpty && fs.all (· == '0')) = true := by
      simpa [h.1] using hzeros
    simp only [withoutFraction, hspan, if_pos hall]

end Fraction

section Underscores

theorem underscoresInside_of_forall {cs : List Char} (h : ∀ c ∈ cs, c ≠ '_') (after : Bool) :
    underscoresInside after cs = true := by
  induction cs generalizing after with
  | nil => rfl
  | cons c cs ih =>
    obtain ⟨hc, hcs⟩ := List.forall_mem_cons.mp h
    rw [underscoresInside, if_neg hc, ih hcs]

/-- A text of digits and underscores, each of them between two others, is a row. Where
another character went before, an underscore may come first. -/
theorem exists_row_of_underscoresInside {after : Bool} {cs : List Char} (hne : cs ≠ [])
    (hinside : underscoresInside after cs = true)
    (hdigits : ∀ c ∈ cs, c ≠ '_' → c.isDigit = true) :
    ∃ u r, cs = u ++ r ∧ (u = [] ∨ u = ['_'] ∧ after = true) ∧ Row r (cs.filter (· != '_')) := by
  induction cs generalizing after with
  | nil => exact absurd rfl hne
  | cons c cs ih =>
    obtain ⟨hc, hcs⟩ := List.forall_mem_cons.mp hdigits
    by_cases hunderscore : c = '_'
    · subst hunderscore
      simp only [underscoresInside, if_true, Bool.and_eq_true, Bool.not_eq_true',
        List.isEmpty_eq_false_iff] at hinside
      obtain ⟨⟨hafter, hrest⟩, hinside⟩ := hinside
      obtain ⟨u, r, rfl, hu, hrow⟩ := ih hrest hinside hcs
      obtain rfl : u = [] := by simpa using hu
      exact ⟨['_'], r, rfl, .inr ⟨rfl, hafter⟩, by simpa using hrow⟩
    · have hdigit := hc hunderscore
      rw [underscoresInside, if_neg hunderscore] at hinside
      have hfilter : (c :: cs).filter (· != '_') = c :: cs.filter (· != '_') := by
        simp [hunderscore]
      rw [hfilter]
      by_cases hnil : cs = []
      · subst hnil
        exact ⟨[], [c], rfl, .inl rfl, .one hdigit⟩
      · obtain ⟨u, r, hur, hu, hrow⟩ := ih hnil hinside hcs
        refine ⟨[], c :: cs, rfl, .inl rfl, ?_⟩
        rcases hu with rfl | ⟨rfl, -⟩
        · rw [List.nil_append] at hur
          subst hur
          exact .digit hdigit hrow
        · subst hur
          exact .underscore hdigit hrow

end Underscores

section Zeros

variable {z t cs x : List Char} {last : Char}

/-- Where the zeros and underscores in front end, the text ends or a fraction starts,
or there is another digit or a minus sign. -/
theorem exists_of_afterZeros (h : afterZeros last cs = some x) :
    ∃ z t, cs = z ++ t ∧ (∀ c ∈ z, c = '0' ∨ c = '_') ∧
      ((∀ c ∈ t.head?, c = '.') ∧ x = z.getLast?.getD last :: t ∨
        x = t ∧ ∃ c ∈ t.head?, c.isDigit = true ∧ c ≠ '0' ∨ c = '-') := by
  induction cs generalizing last with
  | nil =>
    obtain rfl := Option.some.inj h
    exact ⟨[], [], rfl, by simp, .inl ⟨by simp, rfl⟩⟩
  | cons c cs ih =>
    rw [afterZeros] at h
    split_ifs at h with hzero hpoint hdigit
    · obtain ⟨z, t, rfl, hz, hx⟩ := ih h
      refine ⟨c :: z, t, rfl, List.forall_mem_cons.mpr ⟨hzero, hz⟩, ?_⟩
      rwa [List.getLast?_cons, Option.getD_some]
    · obtain rfl := Option.some.inj h
      subst hpoint
      exact ⟨[], '.' :: cs, rfl, by simp, .inl ⟨by simp, rfl⟩⟩
    · obtain rfl := Option.some.inj h
      refine ⟨[], c :: cs, rfl, by simp, .inr ⟨rfl, c, rfl, ?_⟩⟩
      exact hdigit.imp_left fun hc => ⟨hc, fun h => hzero (.inl h)⟩

/-- Zeros and underscores are skipped together; the last of them is remembered. -/
theorem afterZeros_append (hz : ∀ c ∈ z, c = '0' ∨ c = '_') :
    afterZeros last (z ++ t) = afterZeros (z.getLast?.getD last) t := by
  induction z generalizing last with
  | nil => rfl
  | cons c z ih =>
    obtain ⟨hc, hz⟩ := List.forall_mem_cons.mp hz
    rw [List.cons_append, afterZeros, if_pos hc, ih hz, List.getLast?_cons, Option.getD_some]

theorem afterZeros_of_point (ht : ∀ c ∈ t.head?, c = '.') :
    afterZeros last t = some (last :: t) := by
  cases t with
  | nil => rfl
  | cons c t =>
    obtain rfl := ht c rfl
    rfl

theorem Padding.exists_cons (h : Padding z) :
    ∃ z', z = '0' :: z' ∧ ∀ c ∈ z', c = '0' ∨ c = '_' := by
  obtain ⟨z', rfl⟩ := List.head?_eq_some_iff.mp h.1
  exact ⟨z', rfl, (List.forall_mem_cons.mp h.2).2⟩

theorem Padding.withoutZeros_append (h : Padding z) (hlast : z.getLast? = some last) :
    withoutZeros (z ++ t) = afterZeros last t := by
  obtain ⟨z', rfl, hz'⟩ := h.exists_cons
  rw [List.getLast?_cons] at hlast
  rw [List.cons_append, withoutZeros, if_pos rfl, afterZeros_append hz', Option.some.inj hlast]

/-- Zeros are left out in front of another digit or a minus sign; the last of them, or
an underscore in its place, stays if there is nothing else to stand in front of a
fraction. -/
theorem exists_of_withoutZeros (h : withoutZeros cs = some x) :
    (∃ z t, cs = z ++ t ∧ Padding z ∧ (∀ c ∈ t.head?, c = '.') ∧
      ∃ last, z.getLast? = some last ∧ x = last :: t) ∨
    ∃ z, cs = z ++ x ∧ ∃ c ∈ x.head?,
      (z = [] ∨ Padding z) ∧ c.isDigit = true ∧ c ≠ '0' ∨ Padding z ∧ c = '-' := by
  cases cs with
  | nil => cases h
  | cons c cs =>
    rw [withoutZeros] at h
    split_ifs at h with hzero hdigit
    · subst hzero
      obtain ⟨z, t, rfl, hz, hx⟩ := exists_of_afterZeros h
      have hpadding : Padding ('0' :: z) := ⟨rfl, List.forall_mem_cons.mpr ⟨.inl rfl, hz⟩⟩
      rcases hx with ⟨ht, rfl⟩ | ⟨rfl, c, hc, hx⟩
      · exact .inl ⟨'0' :: z, t, rfl, hpadding, ht, _, List.getLast?_cons, rfl⟩
      · refine .inr ⟨'0' :: z, rfl, c, hc, ?_⟩
        exact hx.imp (fun hx => ⟨.inr hpadding, hx⟩) fun hx => ⟨hpadding, hx⟩
    · obtain rfl := Option.some.inj h
      exact .inr ⟨[], rfl, c, rfl, .inl ⟨.inl rfl, hdigit, hzero⟩⟩

end Zeros

section Plain

variable {negative : Bool} {x y rest : List Char} {n : ℤ}

/-- What is tidied to a plain text is that text with underscores inside and a fraction
of zeros behind it. A minus sign that stands in it is the only one. -/
theorem exists_of_plainInteger_tidied (h : plainInteger (tidied negative x) = .integer n) :
    ∃ y f fs, x = y ++ f ∧ Fraction f fs ∧ (∀ c ∈ fs, c = '0') ∧ underscoresInside false y = true ∧
      ∃ m ds, y.filter (· != '_') = (if m then '-' :: ds else ds) ∧ (m = true → negative = false) ∧
        Whole ds ∧ n = signed (negative || m) (decimal ds) := by
  obtain ⟨f, fs, hf, hzeros, hx⟩ := withoutFraction_sound x
  refine ⟨withoutFraction x, f, fs, hx, hf, hzeros, ?_⟩
  rw [tidied] at h
  generalize withoutFraction x = y at h
  have hinside : underscoresInside false y = true := by
    by_contra hinside
    have hnone : withoutUnderscores? y = none := if_neg hinside
    rw [hnone, Option.getD_none] at h
    refine hinside (underscoresInside_of_forall (fun c hc => ?_) false)
    rcases mem_of_plainInteger h c hc with rfl | hdigit
    · decide
    · exact Row.ne_underscore hdigit
  have hfilter : withoutUnderscores? y = some (y.filter (· != '_')) := if_pos hinside
  rw [hfilter, Option.getD_some] at h
  obtain ⟨b, ds, hminus, hwhole, rfl⟩ := plainInteger_eq_integer_iff.mp h
  refine ⟨hinside, ?_⟩
  cases negative with
  | true =>
    obtain ⟨rfl, rfl⟩ := Prod.mk.inj hminus
    exact ⟨false, _, rfl, by simp, hwhole, rfl⟩
  | false =>
    obtain ⟨-, -, -, hds⟩ := exists_sign_of_minus hminus
    exact ⟨b, ds, hds, fun _ => rfl, hwhole, rfl⟩

theorem ne_nil_of_filter_eq {m : Bool} {ds : List Char}
    (hfilter : y.filter (· != '_') = (if m then '-' :: ds else ds)) (hds : Whole ds) : y ≠ [] := by
  rintro rfl
  cases m with
  | true => cases hfilter
  | false => exact hds.digits.1 hfilter.symm

theorem mem_of_filter_eq {m : Bool} {ds : List Char}
    (hfilter : y.filter (· != '_') = (if m then '-' :: ds else ds)) (hds : Whole ds) {c : Char}
    (hc : c ∈ y) (hne : c ≠ '_') : c = '-' ∨ c.isDigit = true := by
  have hmem : c ∈ y.filter (· != '_') := List.mem_filter.mpr ⟨hc, by simpa using hne⟩
  rw [hfilter] at hmem
  cases m with
  | true => exact (List.mem_cons.mp hmem).imp_right (hds.digits.2 c)
  | false => exact .inr (hds.digits.2 c hmem)

/-- Digits alone, with underscores inside, are a row. -/
theorem row_of_filter_eq {after : Bool} {ds : List Char}
    (hinside : underscoresInside after y = true) (hfilter : y.filter (· != '_') = ds)
    (hds : Digits ds) :
    ∃ u r, y = u ++ r ∧ (u = [] ∨ u = ['_'] ∧ after = true) ∧ Row r ds := by
  have hne : y ≠ [] := by
    rintro rfl
    exact hds.1 hfilter.symm
  subst hfilter
  refine exists_row_of_underscoresInside hne hinside fun c hc hunderscore => ?_
  exact hds.2 c (List.mem_filter.mpr ⟨hc, by simpa using hunderscore⟩)

/-- Nothing but zeros stands in front of the point. -/
theorem loose_of_point {z t f : List Char} {last : Char} {m : Bool} {ds : List Char}
    (hz : Padding z) (hlast : z.getLast? = some last) (ht : ∀ c ∈ t.head?, c = '.')
    (hy : y ++ f = last :: t) (hinside : underscoresInside false y = true)
    (hfilter : y.filter (· != '_') = (if m then '-' :: ds else ds)) (hds : Whole ds) :
    t = f ∧ Loose negative z (signed (negative || m) (decimal ds)) := by
  obtain ⟨p, y', rfl⟩ := List.exists_cons_of_ne_nil (ne_nil_of_filter_eq hfilter hds)
  obtain ⟨rfl, rfl⟩ := List.cons.inj hy
  -- No point is left in what is plain, so only the last character of the padding is.
  obtain rfl : y' = [] := by
    cases y' with
    | nil => rfl
    | cons c y' =>
      obtain rfl := ht c rfl
      rcases mem_of_filter_eq hfilter hds (c := '.') (by simp) (by decide) with h | h <;> cases h
  refine ⟨rfl, ?_⟩
  rcases hz.2 p (List.mem_of_getLast? hlast) with rfl | rfl
  · cases m with
    | true => cases hfilter
    | false =>
      obtain rfl : ds = ['0'] := hfilter.symm
      have hzero : signed (negative || false) (decimal ['0']) = 0 := signed_zero _
      rw [hzero]
      exact .zero hz hlast
  · cases hinside

/-- Zeros stand in front of a digit that is none. -/
theorem loose_of_digit {z : List Char} {p : Char} {m : Bool} {ds : List Char}
    (hz : z = [] ∨ Padding z) (hdigit : p.isDigit = true) (hzero : p ≠ '0')
    (hinside : underscoresInside false (p :: y) = true)
    (hfilter : (p :: y).filter (· != '_') = (if m then '-' :: ds else ds)) (hds : Whole ds) :
    Loose negative (z ++ p :: y) (signed (negative || m) (decimal ds)) := by
  have hcons : (p :: y).filter (· != '_') = p :: y.filter (· != '_') := by
    simp [Row.ne_underscore hdigit]
  cases m with
  | true =>
    rw [hcons] at hfilter
    exact absurd (List.cons.inj hfilter).1 (ne_of_isDigit hdigit rfl)
  | false =>
    obtain ⟨u, r, hur, hu, hrow⟩ := row_of_filter_eq hinside hfilter hds.digits
    obtain rfl : u = [] := by simpa using hu
    rw [List.nil_append] at hur
    rw [hur, Bool.or_false]
    have hfirst : ds = p :: y.filter (· != '_') := Eq.trans hfilter.symm hcons
    refine .digits hz hrow ?_ hds.short
    rw [hfirst]
    simpa using hzero

/-- A minus sign stands behind zeros, where the reader of plain texts takes it for the
sign. -/
theorem loose_of_minus {z : List Char} {m : Bool} {ds : List Char} (hz : Padding z)
    (hinside : underscoresInside false ('-' :: y) = true)
    (hfilter : ('-' :: y).filter (· != '_') = (if m then '-' :: ds else ds))
    (hm : m = true → negative = false) (hds : Whole ds) :
    Loose negative (z ++ '-' :: y) (signed (negative || m) (decimal ds)) := by
  have hcons : ('-' :: y).filter (· != '_') = '-' :: y.filter (· != '_') := rfl
  rw [hcons] at hfilter
  cases m with
  | true =>
    obtain ⟨-, hfilter⟩ := List.cons.inj hfilter
    have hinside : underscoresInside true y = true := hinside
    obtain ⟨u, r, rfl, hu, hrow⟩ := row_of_filter_eq hinside hfilter hds.digits
    rw [Bool.or_true]
    exact .minus (hm rfl) hz (hu.imp_right fun hu => hu.1) hrow hds
  | false =>
    have hfirst : '-' :: y.filter (· != '_') = ds := hfilter
    cases hds.digits.2 '-' (hfirst ▸ List.mem_cons_self)

/-- What is read behind a sign is an integer with a fraction of zeros. -/
theorem loose_of_plainInteger (hrest : withoutZeros rest = some x)
    (h : plainInteger (tidied negative x) = .integer n) :
    ∃ b f fs, rest = b ++ f ∧ Loose negative b n ∧ Fraction f fs ∧ ∀ c ∈ fs, c = '0' := by
  obtain ⟨y, f, fs, rfl, hf, hzeros, hinside, m, ds, hfilter, hm, hds, rfl⟩ :=
    exists_of_plainInteger_tidied h
  rcases exists_of_withoutZeros hrest with
    ⟨z, t, rfl, hz, ht, last, hlast, hy⟩ | ⟨z, rfl, c, hc, hfirst⟩
  · obtain ⟨rfl, hloose⟩ := loose_of_point hz hlast ht hy hinside hfilter hds
    exact ⟨z, t, fs, rfl, hloose, hf, hzeros⟩
  · obtain ⟨p, y, rfl⟩ := List.exists_cons_of_ne_nil (ne_nil_of_filter_eq hfilter hds)
    obtain rfl : p = c := Option.some.inj hc
    refine ⟨z ++ p :: y, f, fs, (List.append_assoc _ _ _).symm, ?_, hf, hzeros⟩
    rcases hfirst with ⟨hz, hdigit, hzero⟩ | ⟨hz, rfl⟩
    · exact loose_of_digit hz hdigit hzero hinside hfilter hds
    · exact loose_of_minus hz hinside hfilter hm hds

/-- The digits of a whole number are plain, with or without a minus sign. -/
theorem plainInteger_of_whole {ds : List Char} (hds : Whole ds) (negative : Bool) :
    plainInteger (if negative then '-' :: ds else ds) =
      .integer (signed negative (decimal ds)) := by
  refine plainInteger_eq_integer_iff.mpr ⟨negative, ds, ?_, hds, rfl⟩
  obtain ⟨c, cs, rfl⟩ := List.exists_cons_of_ne_nil hds.digits.1
  have hne : c ≠ '-' := ne_of_isDigit (hds.digits.2 c List.mem_cons_self) rfl
  cases negative with
  | true => rfl
  | false => simp [minus, hne]

theorem tidied_append {f fs w : List Char} (hy : ∀ c ∈ y, c ≠ '.') (hf : Fraction f fs)
    (hzeros : ∀ c ∈ fs, c = '0') (hw : withoutUnderscores? y = some w) (negative : Bool) :
    tidied negative (y ++ f) = if negative then '-' :: w else w := by
  rw [tidied, withoutFraction_append hy hf hzeros, hw]
  rfl

theorem point_of_fraction {f fs : List Char} (hf : Fraction f fs) : ∀ c ∈ f.head?, c = '.' := by
  cases hf <;> simp

theorem Row.digits {r ds : List Char} (h : Row r ds) : Digits ds := by
  induction h with
  | one hc => exact ⟨by simp, by simpa using hc⟩
  | digit hc _ ih => exact ⟨by simp, List.forall_mem_cons.mpr ⟨hc, ih.2⟩⟩
  | underscore hc _ ih => exact ⟨by simp, List.forall_mem_cons.mpr ⟨hc, ih.2⟩⟩

theorem Row.ne_point {r ds : List Char} (h : Row r ds) : ∀ c ∈ r, c ≠ '.' := by
  intro c hc
  rcases h.mem c hc with hdigit | rfl
  · exact ne_of_isDigit hdigit rfl
  · decide

theorem withoutUnderscores?_minus {u r ds : List Char} (hu : u = [] ∨ u = ['_']) (hr : Row r ds) :
    withoutUnderscores? ('-' :: (u ++ r)) = some ('-' :: ds) := by
  have hinside : underscoresInside false ('-' :: (u ++ r)) = true := by
    rcases hu with rfl | rfl
    · exact hr.underscoresInside true
    · obtain ⟨c, r', -, hcons, -⟩ := hr.exists_cons
      have hne : r ≠ [] := hcons ▸ List.cons_ne_nil c r'
      simp [underscoresInside, hr.underscoresInside false, hne]
  have hfilter : ('-' :: (u ++ r)).filter (· != '_') = '-' :: ds := by
    rcases hu with rfl | rfl <;> simp [hr.filter_underscores]
  rw [withoutUnderscores?, if_pos hinside, hfilter]

theorem Padding.exists_withoutZeros {z : List Char} (hz : Padding z) :
    ∃ last, ∀ t, withoutZeros (z ++ t) = afterZeros last t := by
  obtain ⟨z', rfl, -⟩ := hz.exists_cons
  exact ⟨_, fun t => hz.withoutZeros_append List.getLast?_cons⟩

/-- An integer with a fraction of zeros behind it is read. -/
theorem Loose.exists_plain {b f fs : List Char} (h : Loose negative b n) (hf : Fraction f fs)
    (hzeros : ∀ c ∈ fs, c = '0') :
    ∃ x, withoutZeros (b ++ f) = some x ∧ plainInteger (tidied negative x) = .integer n := by
  cases h with
  | zero hz hlast =>
    have hwhole : Whole ['0'] := ⟨⟨by simp, by simp⟩, fun _ => rfl, by simp⟩
    refine ⟨['0'] ++ f, ?_, ?_⟩
    · rw [hz.withoutZeros_append hlast, afterZeros_of_point (point_of_fraction hf)]
      rfl
    · rw [tidied_append (w := ['0']) (by simp) hf hzeros rfl, plainInteger_of_whole hwhole]
      exact congrArg _ (signed_zero negative)
  | @digits z r ds hz hr hfirst hshort =>
    have hwhole : Whole ds := ⟨hr.digits, fun h => absurd h hfirst, hshort⟩
    refine ⟨r ++ f, ?_, ?_⟩
    · obtain ⟨c, r', ds', rfl, rfl, hc⟩ := hr.exists_cons
      have hzero : c ≠ '0' := by simpa using hfirst
      rw [List.append_assoc]
      rcases hz with rfl | hz
      · rw [List.nil_append, hr.withoutZeros_eq, List.cons_append, Row.afterZeros_digit hc hzero]
      · obtain ⟨last, hafter⟩ := hz.exists_withoutZeros
        rw [hafter, List.cons_append, Row.afterZeros_digit hc hzero]
    · rw [tidied_append hr.ne_point hf hzeros hr.withoutUnderscores?, plainInteger_of_whole hwhole]
  | @minus z u r ds hsign hz hu hr hds =>
    subst hsign
    have hpoint : ∀ c ∈ '-' :: (u ++ r), c ≠ '.' := by
      refine List.forall_mem_cons.mpr ⟨by decide, List.forall_mem_append.mpr ⟨?_, hr.ne_point⟩⟩
      rcases hu with rfl | rfl <;> simp
    refine ⟨'-' :: (u ++ r) ++ f, ?_, ?_⟩
    · obtain ⟨last, hafter⟩ := hz.exists_withoutZeros
      rw [List.append_assoc, hafter]
      rfl
    · rw [tidied_append hpoint hf hzeros (withoutUnderscores?_minus hu hr)]
      exact plainInteger_of_whole hds true

end Plain

end VersionedStore.Field
