import VersionedStore.Proofs.Url.Split
import VersionedStore.Url.Basic

/-!
URLs with a text behind them. The slashes at the end of a URL are dropped and a
path is written behind it: this changes the last part of the URL and no other,
so that scheme, user information, host and port stay what they are. The path of
the URL gets longer only if there is neither a query nor a fragment behind it.
-/

namespace VersionedStore.Url

open Text

def unslashed (cs : List Char) : List Char := trimEnd (· == '/') cs

/-- Parts with a text behind the last of them, in place of the slashes there. -/
def Parts.extend (p : Parts) (suffix : List Char) : Parts :=
  match p.fragment, p.query with
  | some f, _ => { p with fragment := some (unslashed f ++ suffix) }
  | none, some q => { p with query := some (unslashed q ++ suffix) }
  | none, none => { p with path := unslashed p.path ++ suffix }

/-- A text that may stand behind a path and goes on with it. -/
structure Continues (suffix : List Char) : Prop where
  rooted : ∀ c ∈ suffix.head?, c = '/'
  path : ∀ c ∈ suffix, endsPath c = false
  visible : ∀ c ∈ suffix, isControl c = false

theorem continues_nil : Continues [] := ⟨nofun, nofun, nofun⟩

namespace Parts

variable {p : Parts} {suffix : List Char}

@[simp] theorem extend_scheme : (p.extend suffix).scheme = p.scheme := by
  unfold extend
  split <;> rfl

@[simp] theorem extend_authority : (p.extend suffix).authority = p.authority := by
  unfold extend
  split <;> rfl

/-- Without a query and a fragment, the text goes behind the path. -/
theorem extend_of_path (hquery : p.query = none) (hfragment : p.fragment = none) :
    p.extend suffix = { p with path := unslashed p.path ++ suffix } := by
  simp only [extend, hquery, hfragment]

theorem extend_query_eq_none_iff : (p.extend suffix).query = none ↔ p.query = none := by
  unfold extend
  split <;> simp_all

theorem extend_fragment_eq_none_iff : (p.extend suffix).fragment = none ↔ p.fragment = none := by
  unfold extend
  split <;> simp_all

/-- A text that does not end in a slash gets into the path just if nothing stands
behind the path. -/
theorem extend_path_iff (hne : suffix ≠ []) (hlast : ∀ c ∈ suffix.getLast?, c ≠ '/') :
    (p.extend suffix).path = unslashed p.path ++ suffix ↔ p.query = none ∧ p.fragment = none := by
  constructor
  · intro hpath
    by_contra hbehind
    have hkept : (p.extend suffix).path = p.path := by
      unfold extend
      split <;> simp_all
    rw [hkept] at hpath
    obtain ⟨front, c, hsuffix⟩ := List.eq_nil_or_concat suffix |>.resolve_left hne
    rw [List.concat_eq_append] at hsuffix
    have hc : (c == '/') = false := by simpa [hsuffix] using hlast
    -- a path that ends like this has no slashes to lose, so it would equal itself and more
    have hsame : unslashed p.path = p.path := by
      rw [hpath, hsuffix, ← List.append_assoc]
      exact trimEnd_append_of_neg _ hc
    rw [hsame] at hpath
    exact hne (List.self_eq_append_right.mp hpath)
  · intro hnone
    rw [extend_of_path hnone.1 hnone.2]

/-- Parts stay absolute, so that their text splits into them again. -/
theorem Absolute.extend (h : p.Absolute) (hsuffix : Continues suffix) :
    (p.extend suffix).Absolute := by
  refine ⟨by simpa using h.scheme, by simpa using h.authority, ?_, ?_, ?_⟩
  · unfold Parts.extend
    split
    · exact h.path
    · exact h.path
    · intro c hc
      rcases List.mem_append.mp hc with hc | hc
      · exact h.path c (mem_of_mem_trimEnd hc)
      · exact hsuffix.path c hc
  · unfold Parts.extend
    split
    · exact h.rooted
    · exact h.rooted
    · intro c hc
      cases hpath : unslashed p.path with
      | nil =>
        simp only [hpath, List.nil_append] at hc
        exact hsuffix.rooted c hc
      | cons d path =>
        simp only [hpath, List.cons_append] at hc
        obtain rfl := Option.some.inj hc
        have hhead : d ∈ (unslashed p.path).head? := by
          rw [hpath]
          rfl
        exact h.rooted d (mem_head?_of_trimEnd hhead)
  · unfold Parts.extend
    split
    · exact h.query
    · rename_i q hfragment hquery
      rintro _ ⟨⟩ c hc
      rcases List.mem_append.mp hc with hc | hc
      · exact h.query q hquery c (mem_of_mem_trimEnd hc)
      · rintro rfl
        exact absurd (hsuffix.path '#' hc) (by decide)
    · rename_i hfragment hquery
      intro q hq
      rw [hquery] at hq
      cases hq

/-- Parts are extended like their text where the last of them stands behind a
character that is no slash. -/
theorem text_extend_last (build : List Char → Parts) {front : List Char} {c : Char}
    (hc : (c == '/') = false) (htext : ∀ last, (build last).text = front ++ c :: last)
    (last suffix : List Char) :
    (build (unslashed last ++ suffix)).text = unslashed (build last).text ++ suffix := by
  have htrim : unslashed (front ++ c :: last) = front ++ c :: unslashed last :=
    trimEnd_append_cons front last hc
  rw [htext, htext, htrim, List.append_assoc, List.cons_append]

/-- The text of extended parts is the extended text. An authority keeps the
slashes in front of it from being dropped. -/
theorem Absolute.text_extend (h : p.Absolute) (hauthority : p.authority ≠ some []) :
    (p.extend suffix).text = unslashed p.text ++ suffix := by
  obtain ⟨scheme, authority, path, query, fragment⟩ := p
  obtain ⟨-, ⟨a, rfl, ha⟩, -, -, -⟩ := h
  obtain ⟨front, c, rfl⟩ := List.eq_nil_or_concat a |>.resolve_left fun h => hauthority (h ▸ rfl)
  have hc : (c == '/') = false := by
    have hend := ha c (by simp)
    simp only [endsAuthority, Bool.or_eq_false_iff] at hend
    exact hend.1.1
  cases fragment with
  | some f =>
    have htext : ∀ f, text ⟨scheme, some (front.concat c), path, query, some f⟩ =
        (closed scheme ++ (marked ['/', '/'] (some (front.concat c)) ++
          (path ++ marked ['?'] query))) ++ '#' :: f := by
      intro f
      simp [text, marked]
    exact text_extend_last (fun f => ⟨scheme, some _, path, query, some f⟩) rfl htext f suffix
  | none =>
    cases query with
    | some q =>
      have htext : ∀ q, text ⟨scheme, some (front.concat c), path, some q, none⟩ =
          (closed scheme ++ (marked ['/', '/'] (some (front.concat c)) ++ path)) ++ '?' :: q := by
        intro q
        simp [text, marked]
      exact text_extend_last (fun q => ⟨scheme, some _, path, some q, none⟩) rfl htext q suffix
    | none =>
      have htext : ∀ path, text ⟨scheme, some (front.concat c), path, none, none⟩ =
          (closed scheme ++ '/' :: '/' :: front) ++ c :: path := by
        intro path
        simp [text, marked]
      exact text_extend_last (fun path => ⟨scheme, some _, path, none, none⟩) hc htext path suffix

end Parts

/-- A text with another one behind it is cut like the text alone, but for the last
part. -/
theorem split_extend {cs suffix : List Char} (h : (split cs).Absolute)
    (hauthority : (split cs).authority ≠ some []) (hsuffix : Continues suffix) :
    split (unslashed cs ++ suffix) = (split cs).extend suffix := by
  have htext : ((split cs).extend suffix).text = unslashed (split cs).text ++ suffix :=
    h.text_extend hauthority
  rw [text_split] at htext
  rw [← htext]
  exact split_text (h.extend hsuffix)

end VersionedStore.Url
