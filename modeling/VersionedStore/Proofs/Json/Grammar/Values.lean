import VersionedStore.Proofs.Json.Grammar.Containers
import VersionedStore.Proofs.Json.Grammar.Numbers
import VersionedStore.Proofs.Json.Grammar.Strings
import VersionedStore.Proofs.Json.RoundTrip

/-!
The reader of values against the grammar. The depth that the reader counts down
and the level that the grammar counts up have the same sum everywhere, and the
induction is on that depth: a container is read if its items are.
-/

namespace VersionedStore.Json.Grammar

theorem afterWord?_eq_some {word cs rest : List Char} :
    afterWord? word cs = some rest ↔ word ++ rest = cs := by
  simp only [afterWord?, List.isPrefixOf_iff_prefix, Option.ite_none_right_eq_some,
    Option.some.injEq, List.prefix_iff_eq_append]
  constructor
  · intro h
    rw [← h.2, h.1]
  · intro h
    subst h
    simp

theorem word_sound {cs rest : List Char} {j : Json} (h : named cs = some (j, rest)) :
    ∃ t, Word t j ∧ cs = t ++ rest := by
  obtain ⟨⟨word, j'⟩, hmem, h⟩ := List.exists_of_findSome?_eq_some h
  obtain ⟨rest', hafter, h⟩ := Option.map_eq_some_iff.mp h
  obtain ⟨rfl, rfl⟩ := Prod.mk.inj h
  refine ⟨word.toList, ?_, (afterWord?_eq_some.mp hafter).symm⟩
  simp only [List.mem_cons, List.not_mem_nil, or_false, Prod.mk.injEq] at hmem
  rcases hmem with ⟨rfl, rfl⟩ | ⟨rfl, rfl⟩ | ⟨rfl, rfl⟩ | ⟨rfl, rfl⟩ | ⟨rfl, rfl⟩ | ⟨rfl, rfl⟩
  · exact .null
  · exact .true
  · exact .false
  · exact .nan
  · exact .infinity
  · exact .negativeInfinity

/-- A value that is neither a string nor a container. -/
theorem simple_sound {level : ℕ} {cs rest : List Char} {j : Json}
    (h : (named cs).or (match cs with
      | '-' :: rest => magnitude true rest
      | _ => magnitude false cs) = some (j, rest)) :
    ∃ t, Value level t j ∧ cs = t ++ rest := by
  rcases Option.or_eq_some_iff.mp h with h | ⟨-, h⟩
  · obtain ⟨t, ht, rfl⟩ := word_sound h
    exact ⟨t, .word ht, rfl⟩
  · split at h
    · obtain ⟨t, ht, rfl⟩ := magnitude_sound h
      exact ⟨'-' :: t, .negative ht, rfl⟩
    · obtain ⟨t, ht, rfl⟩ := magnitude_sound h
      exact ⟨t, .positive ht, rfl⟩

theorem isDigit_head_magnitude {negative : Bool} {t : List Char} {j : Json}
    (h : Magnitude negative t j) : ∃ c cs, t = c :: cs ∧ c.isDigit = true := by
  obtain ⟨ds, f, fs, x, n, hds, -, -, rfl, -⟩ := magnitude_iff_parts.mp h
  obtain ⟨d, ds', rfl⟩ := List.exists_cons_of_ne_nil hds.digits.1
  exact ⟨d, _, rfl, hds.digits.2 d (by simp)⟩

/-- No value starts with white space or with a character that closes a container. -/
theorem opens_value {level : ℕ} {t : List Char} {j : Json} (h : Value level t j) : Opens t := by
  cases h with
  | word h => cases h <;> exact ⟨_, _, rfl, by decide⟩
  | positive h =>
    obtain ⟨c, cs, rfl, hc⟩ := isDigit_head_magnitude h
    exact ⟨c, cs, rfl, isGap_of_isDigit hc, Number.ne_of_isDigit hc rfl,
      Number.ne_of_isDigit hc rfl⟩
  | _ => exact ⟨_, _, rfl, by decide⟩

theorem separated_of_elements {level : ℕ} : ∀ {t : List Char} {js : List Json},
    Elements level t js → Separated (Value level) t js
  | _, _, .one hg h hg' => .one hg h hg'
  | _, _, .cons hg h hg' hs => .cons hg h hg' (separated_of_elements hs)

theorem separated_of_members {level : ℕ} : ∀ {t : List Char} {ms : List (String × Json)},
    Members level t ms → Separated (Member level) t ms
  | _, _, .one hg h hg' => .one hg h hg'
  | _, _, .cons hg h hg' hs => .cons hg h hg' (separated_of_members hs)

/-- The elements of an array are separated values. -/
theorem elements_iff {level : ℕ} {t : List Char} {js : List Json} :
    Elements level t js ↔ Separated (Value level) t js := by
  refine ⟨separated_of_elements, fun h => ?_⟩
  induction h with
  | one hg h hg' => exact .one hg h hg'
  | cons hg h hg' _ ih => exact .cons hg h hg' ih

theorem members_iff {level : ℕ} {t : List Char} {ms : List (String × Json)} :
    Members level t ms ↔ Separated (Member level) t ms := by
  refine ⟨separated_of_members, fun h => ?_⟩
  induction h with
  | one hg h hg' => exact .one hg h hg'
  | cons hg h hg' _ ih => exact .cons hg h hg' ih

def Within {α : Type} (level : ℕ) (G : ℕ → List Char → α → Prop) (t : List Char) (x : α) : Prop :=
  level ≤ 200 ∧ G (level + 1) t x

theorem separated_within {α : Type} {level : ℕ} {G : ℕ → List Char → α → Prop} {t : List Char}
    {xs : List α} :
    Separated (Within level G) t xs ↔ level ≤ 200 ∧ Separated (G (level + 1)) t xs := by
  constructor
  · intro h
    induction h with
    | one hg h hg' => exact ⟨h.1, .one hg h.2 hg'⟩
    | cons hg h hg' _ ih => exact ⟨h.1, .cons hg h.2 hg' ih.2⟩
  · intro h
    obtain ⟨hlevel, h⟩ := h
    induction h with
    | one hg h hg' => exact .one hg ⟨hlevel, h⟩ hg'
    | cons hg h hg' _ ih => exact .cons hg ⟨hlevel, h⟩ hg' ih

variable {inner : Reader Json} {level : ℕ}

theorem member_sound (hinner : Reads inner (Within level Value)) {cs rest : List Char}
    {m : String × Json} (h : member inner cs = some (m, rest)) :
    ∃ t, Within level Member t m ∧ cs = t ++ rest := by
  unfold member at h
  split at h
  · next cs =>
    obtain ⟨⟨name, cs'⟩, hname, h⟩ := Option.bind_eq_some_iff.mp h
    obtain ⟨n, s, hn, rfl, rfl⟩ := quoted_sound hname
    obtain ⟨g, hg, hcs'⟩ := exists_gap_skip cs'
    dsimp only at h
    split at h
    · next cs'' hcolon =>
      obtain ⟨⟨j, rest'⟩, hj, h⟩ := Option.bind_eq_some_iff.mp h
      obtain ⟨rfl, rfl⟩ := Prod.mk.inj (Option.some.inj h)
      obtain ⟨t, ⟨hlevel, ht⟩, hskip⟩ := hinner.sound hj
      obtain ⟨g', hg', hcs''⟩ := exists_gap_skip cs''
      refine ⟨_, ⟨hlevel, .mk hn hg hg' ht⟩, ?_⟩
      rw [hcs', hcolon, hcs'', hskip]
      simp
    · cases h
  · cases h

theorem member_complete (hinner : Reads inner (Within level Value)) {t rest : List Char}
    {m : String × Json} (h : Within level Member t m) (hrest : EndsNumber rest) :
    member inner (t ++ rest) = some (m, rest) := by
  obtain ⟨hlevel, h⟩ := h
  cases h with
  | @mk _ n s g g' t j hn hg hg' hj =>
    have hname := quoted_complete hn (g ++ ':' :: (g' ++ (t ++ rest)))
    have hcolon := skip_gap_cons hg (c := ':') (by decide) (g' ++ (t ++ rest))
    have hskip : skip (g' ++ (t ++ rest)) = t ++ rest := by
      rw [skip_gap hg', (opens_value hj).skip_append]
    have hvalue := hinner.complete ⟨hlevel, hj⟩ hrest
    simp only [List.cons_append, List.append_assoc, member, hname, Option.bind_eq_bind,
      Option.bind_some, hcolon, hskip, hvalue, Option.pure_def]

/-- Members are read as the grammar has them if values are. -/
theorem member_reads (hinner : Reads inner (Within level Value)) :
    Reads (member inner) (Within level Member) where
  sound := member_sound hinner
  complete := member_complete hinner
  opens h := by
    obtain ⟨-, h⟩ := h
    cases h
    exact ⟨_, _, rfl, by decide⟩

/-- What is read as a value is one, if what is read inside of containers is. -/
theorem valueOver_sound (hlevel : level ≤ 201) (hinner : Reads inner (Within level Value))
    {cs rest : List Char} {j : Json} (h : valueOver inner cs = some (j, rest)) :
    ∃ t, Value level t j ∧ cs = t ++ rest := by
  unfold valueOver at h
  split at h
  · obtain ⟨⟨x, rest'⟩, hx, h⟩ := Option.map_eq_some_iff.mp h
    obtain ⟨rfl, rfl⟩ := Prod.mk.inj h
    obtain ⟨t, s, ht, rfl, rfl⟩ := quoted_sound hx
    exact ⟨_, .string ht, by simp⟩
  · obtain ⟨⟨js, rest'⟩, hjs, h⟩ := Option.map_eq_some_iff.mp h
    obtain ⟨rfl, rfl⟩ := Prod.mk.inj h
    rcases hinner.container_sound hjs with ⟨rfl, g, hg, rfl⟩ | ⟨t, ht, rfl⟩
    · exact ⟨_, .emptyArray hlevel hg, by simp⟩
    · obtain ⟨hcontent, ht⟩ := separated_within.mp ht
      exact ⟨_, .array hcontent (elements_iff.mpr ht), by simp⟩
  · obtain ⟨⟨ms, rest'⟩, hms, h⟩ := Option.map_eq_some_iff.mp h
    obtain ⟨rfl, rfl⟩ := Prod.mk.inj h
    rcases (member_reads hinner).container_sound hms with ⟨rfl, g, hg, rfl⟩ | ⟨t, ht, rfl⟩
    · exact ⟨_, .emptyObject hlevel hg, by simp⟩
    · obtain ⟨hcontent, ht⟩ := separated_within.mp ht
      exact ⟨_, .object hcontent (members_iff.mpr ht), by simp⟩
  · exact simple_sound h

/-- A value is read, if those inside of it are. -/
theorem valueOver_complete (hinner : Reads inner (Within level Value)) {t rest : List Char}
    {j : Json} (h : Value level t j) (hrest : EndsNumber rest) :
    valueOver inner (t ++ rest) = some (j, rest) := by
  cases h with
  | word h => cases h <;> rfl
  | positive h =>
    obtain ⟨c, cs, hcs, hc⟩ := isDigit_head_magnitude h
    have hread := magnitude_complete h hrest
    rw [hcs, List.cons_append] at hread ⊢
    rw [valueOver_digit inner _ hc, hread]
  | @negative _ t _ h =>
    obtain ⟨c, cs, hcs, hc⟩ := isDigit_head_magnitude h
    have hread := magnitude_complete h hrest
    rw [hcs, List.cons_append] at hread
    rw [hcs, List.cons_append, List.cons_append, valueOver_minus inner _ hc, hread]
  | @string _ t s h =>
    have hread := quoted_complete h rest
    simp only [valueOver, List.cons_append, List.append_assoc, List.nil_append, hread,
      Option.map_some]
  | @emptyArray _ g hlevel hg =>
    have hread : container inner ']' _ = _ := container_gap (.inl rfl) hg rest
    simp only [valueOver, List.cons_append, List.append_assoc, List.nil_append, hread,
      Option.map_some]
  | @array _ t js hlevel h =>
    have hread := hinner.container_complete (.inl rfl)
      (separated_within.mpr ⟨hlevel, separated_of_elements h⟩) rest
    simp only [valueOver, List.cons_append, List.append_assoc, List.nil_append, hread,
      Option.map_some]
  | @emptyObject _ g hlevel hg =>
    have hread : container (member inner) '}' _ = _ := container_gap (.inr rfl) hg rest
    simp only [valueOver, List.cons_append, List.append_assoc, List.nil_append, hread,
      Option.map_some]
  | @object _ t ms hlevel h =>
    have hread := (member_reads hinner).container_complete (.inr rfl)
      (separated_within.mpr ⟨hlevel, separated_of_members h⟩) rest
    simp only [valueOver, List.cons_append, List.append_assoc, List.nil_append, hread,
      Option.map_some]

theorem valueOver_reads (hlevel : level ≤ 201) (hinner : Reads inner (Within level Value)) :
    Reads (valueOver inner) (Value level) :=
  ⟨valueOver_sound hlevel hinner, valueOver_complete hinner, opens_value⟩

/-- The reader with a depth left goes with the grammar from the level on that
makes up for it. -/
theorem value_reads (d : ℕ) (hlevel : d + level = 201) : Reads (value d) (Value level) := by
  induction d generalizing level with
  | zero =>
    -- At the last level no container has content.
    refine valueOver_reads (by omega) ⟨nofun, fun h => ?_, fun h => ?_⟩
    · exact absurd h.1 (by omega)
    · exact absurd h.1 (by omega)
  | succ d ih =>
    have hinner : Reads (value d) (Value (level + 1)) := ih (by omega)
    have hcontent : level ≤ 200 := by omega
    refine valueOver_reads (by omega) ⟨fun h => ?_, fun h => ?_, fun h => ?_⟩
    · obtain ⟨t, ht, hcs⟩ := hinner.sound h
      exact ⟨t, ⟨hcontent, ht⟩, hcs⟩
    · exact hinner.complete h.2
    · exact hinner.opens h.2

/-- The reader of texts goes with the grammar from both sides. -/
theorem parse?_iff {cs : List Char} {j : Json} : parse? cs = some j ↔ Document cs j := by
  have hreads : Reads (value maxDepth) (Value 1) := value_reads 200 rfl
  constructor
  · intro h
    obtain ⟨⟨j', rest⟩, hvalue, h⟩ := Option.bind_eq_some_iff.mp h
    obtain ⟨hend, h⟩ := Option.ite_none_right_eq_some.mp h
    obtain rfl := Option.some.inj h
    obtain ⟨t, ht, hskip⟩ := hreads.sound hvalue
    obtain ⟨g, hg, hcs⟩ := exists_gap_skip cs
    obtain ⟨g', hg', hrest⟩ := exists_gap_skip rest
    rw [List.isEmpty_iff.mp hend, List.append_nil] at hrest
    exact ⟨g, t, g', hg, ht, hg', by rw [hcs, hskip, hrest]⟩
  · intro h
    obtain ⟨g, t, g', hg, ht, hg', rfl⟩ := h
    have hends : EndsNumber g' := by simpa using endsNumber_gap hg' endsNumber_nil
    have hread := hreads.complete ht hends
    have hskip : skip g' = [] := by simpa [skip] using skip_gap hg' []
    simp only [parse?, skip_gap hg, (opens_value ht).skip_append, hread, Option.bind_eq_bind,
      Option.bind_some, hskip, List.isEmpty_nil, if_true, Option.pure_def]

theorem fromUTF8?_eq_some {body : ByteArray} {s : String} :
    String.fromUTF8? body = some s ↔ s.toUTF8 = body := by
  constructor
  · intro h
    unfold String.fromUTF8? at h
    split_ifs at h
    obtain rfl := Option.some.inj h
    rfl
  · intro h
    subst h
    exact fromUTF8?_toUTF8 s

/-- The reader of bodies takes the language of the grammar, and reads what it
says. -/
theorem parseBytes?_iff {body : ByteArray} {j : Json} :
    parseBytes? body = some j ↔ Denotes body j := by
  simp only [parseBytes?, Option.bind_eq_bind, Option.bind_eq_some_iff, fromUTF8?_eq_some,
    parse?_iff, Denotes]

/-- Of a body that is given as a text, the grammar and the reader say the same. -/
theorem denotes_toUTF8 {s : String} {j : Json} :
    Denotes s.toUTF8 j ↔ parse? s.toList = some j := by
  rw [← parseBytes?_iff, parseBytes?, fromUTF8?_toUTF8]
  rfl

/-- No body denotes two values. -/
theorem Denotes.unique {body : ByteArray} {j k : Json} (hj : Denotes body j)
    (hk : Denotes body k) : j = k :=
  Option.some.inj ((parseBytes?_iff.mpr hj).symm.trans (parseBytes?_iff.mpr hk))

end VersionedStore.Json.Grammar
