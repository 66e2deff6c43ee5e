import VersionedStore.Proofs.Text.Trimming
import VersionedStore.Url.Split

/-!
How the text of a URL and its parts determine each other. The parts make up the
text again, and a text that is put together from a scheme, an authority and
whatever follows falls into just these parts, provided that no part holds a sign
that would end it.
-/

namespace VersionedStore.Url

open Text

def marked (sign : List Char) : Option (List Char) → List Char
  | none => []
  | some part => sign ++ part

def closed : Option (List Char) → List Char
  | none => []
  | some name => name ++ [':']

def Parts.text (p : Parts) : List Char :=
  closed p.scheme ++ (marked ['/', '/'] p.authority ++
    (p.path ++ (marked ['?'] p.query ++ marked ['#'] p.fragment)))

/-- Parts of which a scheme and an authority are two, and none of which holds a
sign that would end it. -/
structure Parts.Absolute (p : Parts) : Prop where
  scheme : ∃ name, p.scheme = some name ∧ isScheme name = true
  authority : ∃ a, p.authority = some a ∧ ∀ c ∈ a, endsAuthority c = false
  path : ∀ c ∈ p.path, endsPath c = false
  rooted : ∀ c ∈ p.path.head?, c = '/'
  query : ∀ q, p.query = some q → ∀ c ∈ q, c ≠ '#'

/-- A scheme is taken off with its colon, and nothing else. -/
theorem splitScheme_text (cs : List Char) :
    closed (splitScheme cs).1 ++ (splitScheme cs).2 = cs ∧
      ∀ name, (splitScheme cs).1 = some name → isScheme name = true := by
  unfold splitScheme
  split
  · rename_i name rest hspan
    split_ifs with hname
    · obtain ⟨rfl, -, -⟩ := span_eq hspan
      refine ⟨by simp [closed], ?_⟩
      rintro _ ⟨⟩
      exact hname
    · exact ⟨rfl, nofun⟩
  · exact ⟨rfl, nofun⟩

theorem splitAuthority_text (cs : List Char) :
    marked ['/', '/'] (splitAuthority cs).1 ++ (splitAuthority cs).2 = cs ∧
      ∀ a, (splitAuthority cs).1 = some a → (∀ c ∈ a, endsAuthority c = false) ∧
        ∀ c ∈ (splitAuthority cs).2.head?, endsAuthority c = true := by
  unfold splitAuthority
  split
  · rename_i cs
    rcases hspan : cs.span fun c => !endsAuthority c with ⟨a, rest⟩
    obtain ⟨rfl, hinside, hrest⟩ := span_eq hspan
    refine ⟨by simp [marked], ?_⟩
    rintro _ ⟨⟩
    exact ⟨fun c hc => by simpa using hinside c hc, fun c hc => by simpa using hrest c hc⟩
  · exact ⟨rfl, nofun⟩

/-- What follows a path is a query, a fragment, both or nothing. -/
theorem splitQuery_text (cs : List Char) (hends : ∀ c ∈ cs.head?, endsPath c = true) :
    marked ['?'] (splitQuery cs).1 ++ marked ['#'] (splitFragment (splitQuery cs).2) = cs ∧
      ∀ q, (splitQuery cs).1 = some q → ∀ c ∈ q, c ≠ '#' := by
  have hfragment : ∀ rest : List Char, (∀ c ∈ rest.head?, c = '#') →
      marked ['#'] (splitFragment rest) = rest := by
    intro rest hrest
    cases rest with
    | nil => rfl
    | cons c rest =>
      obtain rfl := hrest c rfl
      rfl
  unfold splitQuery
  split
  · rename_i cs
    rcases hspan : cs.span (· != '#') with ⟨q, rest⟩
    obtain ⟨rfl, hinside, hrest⟩ := span_eq hspan
    refine ⟨?_, ?_⟩
    · rw [hfragment rest fun c hc => by simpa using hrest c hc]
      rfl
    · rintro _ ⟨⟩
      exact fun c hc => by simpa using hinside c hc
  · rename_i hquery
    refine ⟨hfragment cs fun c hc => ?_, nofun⟩
    cases cs with
    | nil => cases hc
    | cons d cs =>
      obtain rfl := Option.some.inj hc
      have hd : d ≠ '?' := fun h => hquery cs (h ▸ rfl)
      simpa [endsPath, hd] using hends d rfl

/-- Nothing of a text is lost when it is cut into its parts. -/
theorem text_split (cs : List Char) : (split cs).text = cs := by
  obtain ⟨hscheme, -⟩ := splitScheme_text cs
  obtain ⟨hauthority, -⟩ := splitAuthority_text (splitScheme cs).2
  rcases hspan : (splitAuthority (splitScheme cs).2).2.span fun c => !endsPath c with ⟨path, rest⟩
  obtain ⟨hpath, -, hrest⟩ := span_eq hspan
  obtain ⟨hquery, -⟩ := splitQuery_text rest fun c hc => by simpa using hrest c hc
  simp only [split, Parts.text, hspan, hquery]
  rw [← hpath, hauthority, hscheme]

/-- Parts that a text was split into hold no sign that would end them. -/
theorem absolute_split {cs : List Char} (hscheme : (split cs).scheme.isSome = true)
    (hauthority : (split cs).authority.isSome = true) : (split cs).Absolute := by
  obtain ⟨name, hname⟩ := Option.isSome_iff_exists.mp hscheme
  obtain ⟨a, ha⟩ := Option.isSome_iff_exists.mp hauthority
  obtain ⟨-, hproper⟩ := splitScheme_text cs
  obtain ⟨-, hends⟩ := splitAuthority_text (splitScheme cs).2
  obtain ⟨hinside, hafter⟩ := hends a ha
  rcases hspan : (splitAuthority (splitScheme cs).2).2.span fun c => !endsPath c with ⟨path, rest⟩
  obtain ⟨hpath, hpathInside, hrest⟩ := span_eq hspan
  obtain ⟨-, hquery⟩ := splitQuery_text rest fun c hc => by simpa using hrest c hc
  have hcut : (split cs).path = path ∧ (split cs).query = (splitQuery rest).1 := by
    simp only [split, hspan, and_self]
  obtain ⟨hcutPath, hcutQuery⟩ := hcut
  refine ⟨⟨name, hname, hproper name hname⟩, ⟨a, ha, hinside⟩, ?_, ?_, ?_⟩
  · intro c hc
    rw [hcutPath] at hc
    simpa using hpathInside c hc
  · intro c hc
    rw [hcutPath] at hc
    have hhead : c ∈ (splitAuthority (splitScheme cs).2).2.head? := by
      rw [hpath]
      exact List.mem_head?_append_of_mem_head? hc
    have hnot := hpathInside c (List.mem_of_mem_head? hc)
    have hends := hafter c hhead
    simp only [endsPath, endsAuthority, Bool.not_eq_true', Bool.or_eq_false_iff,
      Bool.or_eq_true, beq_iff_eq, beq_eq_false_iff_ne] at hnot hends
    exact (hends.resolve_right hnot.2).resolve_right hnot.1
  · intro q hq
    rw [hcutQuery] at hq
    exact hquery q hq

theorem head?_marked {sign : Char} {part : Option (List Char)} {c : Char}
    (h : c ∈ (marked [sign] part).head?) : c = sign := by
  cases part with
  | none => cases h
  | some part => exact (Option.some.inj h).symm

/-- What stands behind the path of a text starts with one of two signs. -/
theorem endsPath_of_head? {query fragment : Option (List Char)} {c : Char}
    (h : c ∈ (marked ['?'] query ++ marked ['#'] fragment).head?) : endsPath c = true := by
  cases query with
  | none =>
    obtain rfl := head?_marked h
    rfl
  | some q =>
    obtain rfl := Option.some.inj h
    rfl

/-- A query ends at the number sign of a fragment. -/
theorem splitQuery_marked {query : Option (List Char)} (fragment : Option (List Char))
    (hquery : ∀ q, query = some q → ∀ c ∈ q, c ≠ '#') :
    splitQuery (marked ['?'] query ++ marked ['#'] fragment) =
      (query, marked ['#'] fragment) := by
  cases query with
  | none => cases fragment <;> rfl
  | some q =>
    have hspan : (q ++ marked ['#'] fragment).span (· != '#') = (q, marked ['#'] fragment) := by
      apply span_append
      · intro c hc
        simpa using hquery q rfl c hc
      · intro c hc
        obtain rfl := head?_marked hc
        rfl
    change splitQuery ('?' :: (q ++ marked ['#'] fragment)) = _
    simp only [splitQuery, hspan]

theorem splitFragment_marked (fragment : Option (List Char)) :
    splitFragment (marked ['#'] fragment) = fragment := by
  cases fragment <;> rfl

/-- A text that is put together from parts falls into just these. -/
theorem split_text {p : Parts} (h : p.Absolute) : split p.text = p := by
  obtain ⟨scheme, authority, path, query, fragment⟩ := p
  obtain ⟨⟨name, rfl, hname⟩, ⟨a, rfl, ha⟩, hpath, hrooted, hquery⟩ := h
  have hchars : ∀ c ∈ name, isSchemeChar c = true := by
    rw [isScheme, Bool.and_eq_true, List.all_eq_true] at hname
    exact hname.1
  set rest := marked ['?'] query ++ marked ['#'] fragment with hrest
  have hends : ∀ c ∈ rest.head?, endsPath c = true := fun c hc => endsPath_of_head? hc
  have hscheme : splitScheme (name ++ ':' :: '/' :: '/' :: (a ++ (path ++ rest))) =
      (some name, '/' :: '/' :: (a ++ (path ++ rest))) := by
    have hspan : (name ++ ':' :: '/' :: '/' :: (a ++ (path ++ rest))).span isSchemeChar =
        (name, ':' :: '/' :: '/' :: (a ++ (path ++ rest))) := by
      apply span_append hchars
      rintro _ ⟨⟩
      decide
    simp only [splitScheme, hspan, hname, if_true]
  have hauthority : (a ++ (path ++ rest)).span (fun c => !endsAuthority c) = (a, path ++ rest) := by
    apply span_append
    · intro c hc
      simpa using ha c hc
    · intro c hc
      cases path with
      | nil =>
        have hend := hends c hc
        simp only [endsPath, endsAuthority, Bool.not_eq_false', Bool.or_eq_true] at hend ⊢
        tauto
      | cons d path =>
        obtain rfl := Option.some.inj hc
        obtain rfl := hrooted d rfl
        decide
  have hcut : (path ++ rest).span (fun c => !endsPath c) = (path, rest) := by
    apply span_append
    · intro c hc
      simpa using hpath c hc
    · intro c hc
      simpa using hends c hc
  have htext : Parts.text ⟨some name, some a, path, query, fragment⟩ =
      name ++ ':' :: '/' :: '/' :: (a ++ (path ++ rest)) := by
    simp [Parts.text, closed, marked, hrest]
  rw [htext, split]
  simp only [hscheme, splitAuthority, hauthority, hcut]
  rw [hrest, splitQuery_marked fragment hquery, splitFragment_marked]

end VersionedStore.Url
