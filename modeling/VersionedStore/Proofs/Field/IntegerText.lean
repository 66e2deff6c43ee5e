import VersionedStore.Proofs.Field.Tidying

/-!
The language of texts that are read as integers. Behind white space and a sign stands
a row of digits with single underscores inside; in front of it any number of zeros and
underscores may stand, and a fraction of zeros behind it. Only a text that starts with
too many digits is told apart from the other texts that are refused.
-/

namespace VersionedStore.Field

open Number
open VersionedStore.Json.Grammar

/-- A text that is read as an integer: white space, a sign, and a fraction of zeros
may stand around it. -/
inductive Written : List Char → ℤ → Prop where
  | mk {g s b f fs g' : List Char} {negative : Bool} {n : ℤ}
    (hg : ∀ c ∈ g, Text.isSpace c = true) (hs : Sign s negative) (hb : Loose negative b n)
    (hf : Fraction f fs) (hzeros : ∀ c ∈ fs, c = '0') (hg' : ∀ c ∈ g', Text.isSpace c = true) :
    Written (g ++ (s ++ (b ++ f)) ++ g') n

/-- A text that spells an integer in the usual way: a row of digits, zeros in front
among them, with white space, a sign and a fraction of zeros around it. -/
inductive SpellsInteger : List Char → ℤ → Prop where
  | mk {g s r ds f fs g' : List Char} {negative : Bool}
    (hg : ∀ c ∈ g, Text.isSpace c = true) (hs : Sign s negative) (hr : Row r ds)
    (hshort : (ds.dropWhile (· == '0')).length ≤ 4300) (hf : Fraction f fs)
    (hzeros : ∀ c ∈ fs, c = '0') (hg' : ∀ c ∈ g', Text.isSpace c = true) :
    SpellsInteger (g ++ (s ++ (r ++ f)) ++ g') (signed negative (decimal ds))

/-- A text that starts with too many digits, or with a minus sign and too many digits.
The first of them is not zero. -/
def StartsLong (cs : List Char) : Prop :=
  ∃ s ds rest, (s = [] ∨ s = ['-']) ∧ (∀ c ∈ ds, c.isDigit = true) ∧ ds.head? ≠ some '0' ∧
    4300 < ds.length ∧ cs = s ++ (ds ++ rest)

section Language

variable {cs : List Char} {n : ℤ}

theorem Loose.exists_cons {negative : Bool} {b : List Char} (h : Loose negative b n) :
    ∃ c b', b = c :: b' ∧ c.isDigit = true := by
  have hpadded {z t : List Char} (hz : Padding z) :
      ∃ c b', z ++ t = c :: b' ∧ c.isDigit = true := by
    obtain ⟨z', rfl, -⟩ := hz.exists_cons
    exact ⟨'0', z' ++ t, rfl, rfl⟩
  cases h with
  | zero hz =>
    obtain ⟨z', rfl, -⟩ := hz.exists_cons
    exact ⟨'0', z', rfl, rfl⟩
  | digits hz hr =>
    rcases hz with rfl | hz
    · obtain ⟨c, r', -, rfl, -, hc⟩ := hr.exists_cons
      exact ⟨c, r', rfl, hc⟩
    · exact hpadded hz
  | minus _ hz => exact hpadded hz

theorem Padding.append {w z : List Char} (hw : Padding w) (hz : z = [] ∨ Padding z) :
    Padding (w ++ z) := by
  obtain ⟨w', rfl, hw'⟩ := hw.exists_cons
  refine ⟨rfl, List.forall_mem_append.mpr ⟨hw.2, ?_⟩⟩
  rcases hz with rfl | hz
  · simp
  · exact hz.2

/-- More zeros in front make no difference. -/
theorem Loose.padded {negative : Bool} {w b : List Char} (h : Loose negative b n)
    (hw : Padding w) : Loose negative (w ++ b) n := by
  cases h with
  | zero hz hlast => exact .zero (hw.append (.inr hz)) (by simp [hlast])
  | digits hz hr hfirst hshort =>
    rw [← List.append_assoc]
    exact .digits (.inr (hw.append hz)) hr hfirst hshort
  | minus hsign hz hu hr hds =>
    rw [← List.append_assoc]
    exact .minus hsign (hw.append (.inr hz)) hu hr hds

theorem not_isSpace_of_row {r ds : List Char} (hr : Row r ds) :
    ∀ c ∈ r, Text.isSpace c = false := by
  intro c hc
  rcases hr.mem c hc with hdigit | rfl
  · exact isSpace_of_isDigit hdigit
  · rfl

theorem Padding.not_isSpace {z : List Char} (hz : Padding z) :
    ∀ c ∈ z, Text.isSpace c = false := by
  intro c hc
  rcases hz.2 c hc with rfl | rfl <;> rfl

/-- No white space stands inside of an integer, so trimming stops at its ends. -/
theorem Loose.not_isSpace {negative : Bool} {b : List Char} (h : Loose negative b n) :
    ∀ c ∈ b, Text.isSpace c = false := by
  cases h with
  | zero hz => exact hz.not_isSpace
  | digits hz hr =>
    refine List.forall_mem_append.mpr ⟨?_, not_isSpace_of_row hr⟩
    rcases hz with rfl | hz
    · simp
    · exact hz.not_isSpace
  | minus _ hz hu hr =>
    refine List.forall_mem_append.mpr ⟨hz.not_isSpace, List.forall_mem_cons.mpr ⟨rfl, ?_⟩⟩
    refine List.forall_mem_append.mpr ⟨?_, not_isSpace_of_row hr⟩
    rcases hu with rfl | rfl <;> simp
    rfl

theorem tidy_eq (cs : List Char) :
    tidy cs = (withoutZeros (sign (Text.trim Text.isSpace cs)).2).map
      (tidied (sign (Text.trim Text.isSpace cs)).1) := rfl

/-- A text is tidied to the plain text of an integer just if it is written as one. -/
theorem tidy_iff_written : (tidy cs).map plainInteger = some (.integer n) ↔ Written cs n := by
  constructor
  · intro h
    obtain ⟨g, g', hg, hg', hcs⟩ := Text.exists_eq_trim_append Text.isSpace cs
    obtain ⟨s, hs, htrim⟩ := sign_sound (Text.trim Text.isSpace cs)
    rw [tidy_eq, Option.map_map, Option.map_eq_some_iff] at h
    obtain ⟨x, hx, hplain⟩ := h
    obtain ⟨b, f, fs, hrest, hb, hf, hzeros⟩ := loose_of_plainInteger hx hplain
    rw [hcs, htrim, hrest]
    exact .mk hg hs hb hf hzeros hg'
  · intro h
    obtain @⟨g, s, b, f, fs, g', negative, _, hg, hs, hb, hf, hzeros, hg'⟩ := h
    have hspaces : ∀ c ∈ s ++ (b ++ f), Text.isSpace c = false := by
      simp only [List.forall_mem_append]
      exact ⟨not_isSpace_of_sign hs, hb.not_isSpace, not_isSpace_of_fraction hf⟩
    have hsign : sign (s ++ (b ++ f)) = (negative, b ++ f) := by
      obtain ⟨c, b', rfl, hc⟩ := hb.exists_cons
      exact sign_of_isDigit hs hc
    obtain ⟨x, hx, hplain⟩ := hb.exists_plain hf hzeros
    rw [tidy_eq, trim_append hg hspaces hg', hsign, hx, Option.map_some, Option.map_some, hplain]

theorem minus_append {s ds rest : List Char} (hs : s = [] ∨ s = ['-']) (hds : Digits ds) :
    ∃ negative, minus (s ++ (ds ++ rest)) = (negative, ds ++ rest) := by
  obtain ⟨c, cs, rfl⟩ := List.exists_cons_of_ne_nil hds.1
  have hne : c ≠ '-' := ne_of_isDigit (hds.2 c List.mem_cons_self) rfl
  rcases hs with rfl | rfl
  · exact ⟨false, by simp [minus, hne]⟩
  · exact ⟨true, rfl⟩

/-- A text is too long just if it starts with a row that is. -/
theorem plainInteger_eq_tooLong_iff : plainInteger cs = .tooLong ↔ StartsLong cs := by
  constructor
  · intro h
    rcases hminus : minus cs with ⟨negative, ds⟩
    obtain ⟨-, -, -, hcs⟩ := exists_sign_of_minus hminus
    simp only [plainInteger, hminus, List.span_eq_takeWhile_dropWhile] at h
    split_ifs at h with hzero hhead hlong
    obtain ⟨-, hhead⟩ := not_or.mp hhead
    refine ⟨if negative then ['-'] else [], ds.takeWhile Char.isDigit, ds.dropWhile Char.isDigit,
      ?_, fun c hc => List.mem_takeWhile_imp hc, hhead, hlong, ?_⟩
    · cases negative <;> simp
    · rw [hcs, List.takeWhile_append_dropWhile]
      cases negative <;> rfl
  · intro h
    obtain ⟨s, ds, rest, hs, hdigits, hhead, hlong, rfl⟩ := h
    have hne : ds ≠ [] := List.ne_nil_of_length_pos (by omega)
    obtain ⟨negative, hminus⟩ :
        ∃ negative, minus (s ++ (ds ++ rest)) = (negative, ds ++ rest) :=
      minus_append hs ⟨hne, hdigits⟩
    have htake : (ds ++ rest).takeWhile Char.isDigit = ds ++ rest.takeWhile Char.isDigit :=
      List.takeWhile_append_of_pos hdigits
    have hzero : ds ++ rest ≠ ['0'] := by
      intro hzero
      have hlength := congrArg List.length hzero
      simp only [List.length_append, List.length_cons, List.length_nil] at hlength
      omega
    have hstart : ¬(ds ++ rest.takeWhile Char.isDigit = [] ∨
        (ds ++ rest.takeWhile Char.isDigit).head? = some '0') := by
      simp [hne, hhead]
    have hlength : maxTextDigits < (ds ++ rest.takeWhile Char.isDigit).length := by
      rw [List.length_append, maxTextDigits]
      omega
    simp only [plainInteger, hminus, List.span_eq_takeWhile_dropWhile, htake, if_neg hzero,
      if_neg hstart, if_pos hlength]

theorem withoutFraction_digits {ds : List Char} (hds : ∀ c ∈ ds, c.isDigit = true)
    (rest : List Char) : ∃ rest', withoutFraction (ds ++ rest) = ds ++ rest' := by
  have hpoint : ∀ c ∈ ds, (c != '.') = true := fun c hc => by
    simpa using ne_of_isDigit (hds c hc) rfl
  rw [withoutFraction, List.span_eq_takeWhile_dropWhile, List.takeWhile_append_of_pos hpoint,
    List.dropWhile_append_of_pos hpoint]
  split
  · next heq =>
    obtain ⟨rfl, -⟩ := Prod.mk.inj heq
    split_ifs
    · exact ⟨_, rfl⟩
    · exact ⟨_, rfl⟩
  · exact ⟨_, rfl⟩

/-- A text that starts with digits still does when it is tidied, with the same digits. -/
theorem tidied_digits {ds : List Char} (hds : ∀ c ∈ ds, c.isDigit = true) (negative : Bool)
    (rest : List Char) : ∃ rest',
      tidied negative (ds ++ rest) = (if negative then ['-'] else []) ++ (ds ++ rest') := by
  have hfilter : ds.filter (· != '_') = ds :=
    List.filter_eq_self.mpr fun c hc => by simpa using Row.ne_underscore (hds c hc)
  have hkept (cs : List Char) :
      ∃ rest', (withoutUnderscores? (ds ++ cs)).getD (ds ++ cs) = ds ++ rest' := by
    unfold withoutUnderscores?
    split_ifs
    · exact ⟨_, by rw [Option.getD_some, List.filter_append, hfilter]⟩
    · exact ⟨cs, rfl⟩
  obtain ⟨rest₁, hfraction⟩ := withoutFraction_digits hds rest
  obtain ⟨rest₂, hrest₂⟩ := hkept rest₁
  refine ⟨rest₂, ?_⟩
  rw [tidied, hfraction, hrest₂]
  cases negative <;> rfl

/-- A text that starts with too many digits is not tidied to the text of an integer. -/
theorem not_written_of_startsLong (h : StartsLong cs) : ¬Written cs n := by
  obtain ⟨s, ds, rest, hs, hdigits, hhead, hlong, rfl⟩ := h
  have hne : ds ≠ [] := List.ne_nil_of_length_pos (by omega)
  obtain ⟨negative, hsign⟩ : ∃ negative, Sign s negative := by
    rcases hs with rfl | rfl
    · exact ⟨_, .absent⟩
    · exact ⟨_, .minus⟩
  have htrim : Text.trim Text.isSpace (s ++ (ds ++ rest)) =
      s ++ (ds ++ Text.trimEnd Text.isSpace rest) := by
    have hspaces : ∀ c ∈ s ++ ds, Text.isSpace c = false :=
      List.forall_mem_append.mpr ⟨not_isSpace_of_sign hsign, fun c hc =>
        isSpace_of_isDigit (hdigits c hc)⟩
    rw [← List.append_assoc, Text.trim_append_of_neg (by simp [hne]) hspaces, List.append_assoc]
  have hzeros (t : List Char) : withoutZeros (ds ++ t) = some (ds ++ t) := by
    obtain ⟨c, ds', rfl⟩ := List.exists_cons_of_ne_nil hne
    have hzero : c ≠ '0' := by simpa using hhead
    rw [List.cons_append, withoutZeros, if_neg hzero, if_pos (hdigits c List.mem_cons_self)]
  rw [← tidy_iff_written, tidy_eq, htrim, sign_complete hsign ⟨hne, hdigits⟩, hzeros,
    Option.map_some, Option.map_some, Option.some.injEq]
  obtain ⟨rest', hrest'⟩ := tidied_digits hdigits negative (Text.trimEnd Text.isSpace rest)
  have hlong' :
      plainInteger (tidied negative (ds ++ Text.trimEnd Text.isSpace rest)) = .tooLong := by
    refine plainInteger_eq_tooLong_iff.mpr ⟨_, ds, rest', ?_, hdigits, hhead, hlong, hrest'⟩
    cases negative <;> simp
  rw [hlong']
  intro h
  cases h

/-- A row of digits that is not too long without the zeros in front is an integer. -/
theorem loose_of_row {r ds : List Char} (h : Row r ds) (negative : Bool)
    (hshort : (ds.dropWhile (· == '0')).length ≤ 4300) :
    Loose negative r (signed negative (decimal ds)) := by
  -- A zero in front goes to the padding; the row starts with the first other digit.
  have hother {c : Char} {r ds : List Char} (h : Row r (c :: ds)) (hzero : c ≠ '0')
      (hshort : ((c :: ds).dropWhile (· == '0')).length ≤ 4300) :
      Loose negative r (signed negative (decimal (c :: ds))) := by
    have hkept : (c :: ds).dropWhile (· == '0') = c :: ds :=
      List.dropWhile_cons_of_neg (by simpa using hzero)
    rw [hkept] at hshort
    exact .digits (z := []) (.inl rfl) h (by simpa using hzero) hshort
  induction h with
  | @one c hc =>
    by_cases hzero : c = '0'
    · subst hzero
      have hvalue : signed negative (decimal ['0']) = 0 := signed_zero negative
      rw [hvalue]
      exact .zero ⟨rfl, by simp⟩ rfl
    · exact hother (.one hc) hzero hshort
  | @digit c r ds hc h ih =>
    by_cases hzero : c = '0'
    · subst hzero
      rw [decimal_cons_zero]
      exact (ih hshort).padded (w := ['0']) ⟨rfl, by simp⟩
    · exact hother (.digit hc h) hzero hshort
  | @underscore c r ds hc h ih =>
    by_cases hzero : c = '0'
    · subst hzero
      rw [decimal_cons_zero]
      exact (ih hshort).padded (w := ['0', '_']) ⟨rfl, by simp⟩
    · exact hother (.underscore hc h) hzero hshort

/-- A text is read as an integer just if it is written as one. -/
theorem integerOfText_eq_ok_iff_written {text : String} :
    integerOfText text = .ok n ↔ Written text.toList n := by
  rw [integerOfText_eq_ok_iff, ← tidy_iff_written]
  constructor
  · intro h
    rcases h with h | ⟨-, h⟩
    · rw [tidy_of_plainInteger h, Option.map_some, h]
    · exact h
  · intro h
    cases hplain : plainInteger text.toList with
    | integer k =>
      rw [tidy_of_plainInteger hplain, Option.map_some, hplain] at h
      exact .inl (Option.some.inj h)
    | tooLong =>
      exact absurd (tidy_iff_written.mp h)
        (not_written_of_startsLong (plainInteger_eq_tooLong_iff.mp hplain))
    | other => exact .inr ⟨rfl, h⟩

/-- Too many digits in front are too many, whatever follows them. -/
theorem integerOfText_of_startsLong {text : String} (h : StartsLong text.toList) :
    integerOfText text = fail .integerSize := by
  rw [integerOfText, plainInteger_eq_tooLong_iff.mpr h]

/-- Any other text that is not written as an integer is no integer. -/
theorem integerOfText_of_not_written {text : String} (h : ¬∃ n, Written text.toList n)
    (hlong : ¬StartsLong text.toList) : integerOfText text = fail .integerText := by
  have hnone : ∀ n, integerOfText text ≠ .ok n :=
    fun n hn => h ⟨n, integerOfText_eq_ok_iff_written.mp hn⟩
  unfold integerOfText at hnone ⊢
  split
  · next n hn => exact absurd (by rw [hn]) (hnone n)
  · next hn => exact absurd (plainInteger_eq_tooLong_iff.mp hn) hlong
  · split
    · next n hn => exact absurd ⟨n, tidy_iff_written.mp hn⟩ h
    · rfl

/-- A text is written as one integer at most. -/
theorem Written.unique {k : ℤ} (hn : Written cs n) (hk : Written cs k) : n = k := by
  rw [← String.toList_ofList (l := cs), ← integerOfText_eq_ok_iff_written] at hn hk
  exact Except.ok.inj (hn.symm.trans hk)

/-- The usual spellings are among those that are read. -/
theorem SpellsInteger.written (h : SpellsInteger cs n) : Written cs n := by
  cases h with
  | mk hg hs hr hshort hf hzeros hg' => exact .mk hg hs (loose_of_row hr _ hshort) hf hzeros hg'

/-- The decimal text of an integer spells this integer. -/
theorem spellsInteger_toString (h : (Nat.toDigits 10 n.natAbs).length ≤ 4300) :
    SpellsInteger (toString n).toList n := by
  have hdigits : Digits (Nat.toDigits 10 n.natAbs) :=
    ⟨Nat.toDigits_ne_nil, toDigits_all_isDigit _⟩
  have hshort := (List.length_dropWhile_le (· == '0') (Nat.toDigits 10 n.natAbs)).trans h
  have hsign : Sign (if n < 0 then ['-'] else []) (decide (n < 0)) := by
    by_cases hn : n < 0
    · simpa [hn] using Sign.minus
    · simpa [hn] using Sign.absent
  have hnone : ∀ c ∈ ([] : List Char), Text.isSpace c = true := by simp
  have hspells :=
    SpellsInteger.mk hnone hsign (row_of_digits hdigits) hshort .absent (by simp) hnone
  have hvalue : decimal (Nat.toDigits 10 n.natAbs) = n.natAbs := Nat.ofDigitChars_ten_toDigits
  rw [hvalue, signed_natAbs, List.nil_append, List.append_nil, List.append_nil,
    ← Json.writeInt_eq, ← Json.toList_toString] at hspells
  exact hspells

end Language

end VersionedStore.Field
