import VersionedStore.Proofs.Url.Extension
import VersionedStore.Proofs.Url.Path

/-!
Where a URL leads. Its origin, which is all but path, query and fragment, is a
matter of scheme and authority alone. A URL in its normal form keeps it when its
text is extended, unless the text gets too long to be read.
-/

namespace VersionedStore

open Text

def Url.moved (u : Url) (p : Url.Parts) : Url :=
  { u with
    path := Url.escape Url.pathSafe (Url.normalPath p.path)
    query := p.query.map (Url.escape Url.querySafe)
    fragment := p.fragment.map (Url.escape Url.fragmentSafe) }

/-- URLs that lead to one place: to one host, over one port, in one way and on
behalf of one user. -/
structure Url.SameOrigin (u v : Url) : Prop where
  scheme : u.scheme = v.scheme
  userinfo : u.userinfo = v.userinfo
  host : u.host = v.host
  port : u.port = v.port

namespace Url

variable {cs suffix : List Char} {p q : Parts} {u : Url}

theorem sameOrigin_moved : (u.moved p).SameOrigin u := ⟨rfl, rfl, rfl, rfl⟩

theorem SameOrigin.isAbsolute {v : Url} (h : u.SameOrigin v) : u.isAbsolute = v.isAbsolute := by
  rw [Url.isAbsolute, Url.isAbsolute, h.scheme, h.host]

/-- A text is a URL if it is not too long, has no control characters, and its parts are
right. -/
theorem ofText_eq_ok_iff :
    ofText cs = .ok u ↔ cs.length ≤ maxLength ∧ (∀ c ∈ cs, isControl c = false) ∧
      ofParts (split cs) = .ok u := by
  unfold ofText
  split_ifs with hlong
  · exact iff_of_false nofun fun h => Nat.not_lt.mpr h.1 hlong
  · rw [and_iff_right (Nat.not_lt.mp hlong), ← List.findIdx?_eq_none_iff]
    cases cs.findIdx? isControl <;> simp

/-- The scheme and the host of a URL are those of its parts, in normal form. -/
theorem front_of_ofParts (h : ofParts p = .ok u) :
    u.scheme = (p.scheme.getD []).map Char.toLower ∧
      normalHost (splitUserHostPort (p.authority.getD [])).host = .ok u.host := by
  unfold ofParts at h
  cases hhost : normalHost (splitUserHostPort (p.authority.getD [])).host with
  | error f =>
    simp only [hhost, bind, Except.bind] at h
    cases h
  | ok host =>
    cases hport : normalPort (p.scheme.getD [])
        (splitUserHostPort (p.authority.getD [])).port with
    | error f =>
      simp only [hhost, hport, bind, Except.bind] at h
      cases h
    | ok port =>
      simp only [hhost, hport, bind, Except.bind] at h
      split_ifs at h <;> cases h <;> exact ⟨rfl, rfl⟩

/-- What parts with a scheme are read as: only the host and the port can be at fault. -/
theorem ofParts_of_scheme (hscheme : p.scheme.getD [] ≠ []) :
    ofParts p = (normalHost (splitUserHostPort (p.authority.getD [])).host).bind fun host =>
      (normalPort (p.scheme.getD []) (splitUserHostPort (p.authority.getD [])).port).map
        fun port => ⟨(p.scheme.getD []).map Char.toLower,
          escape userinfoSafe (splitUserHostPort (p.authority.getD [])).userinfo, host, port,
          escape pathSafe (normalPath p.path), p.query.map (escape querySafe),
          p.fragment.map (escape fragmentSafe)⟩ := by
  unfold ofParts
  simp only [hscheme, false_and, if_false]
  rfl

/-- Parts with one scheme and one authority are read as URLs of one origin. -/
theorem ofParts_of_same_front (hscheme : p.scheme.getD [] ≠ []) (hu : ofParts p = .ok u)
    (hsame : q.scheme = p.scheme) (hsame' : q.authority = p.authority) :
    ofParts q = .ok (u.moved q) := by
  rw [ofParts_of_scheme hscheme] at hu
  rw [ofParts_of_scheme (hsame ▸ hscheme), hsame, hsame']
  cases hhost : normalHost (splitUserHostPort (p.authority.getD [])).host with
  | error f =>
    rw [hhost] at hu
    cases hu
  | ok host =>
    cases hport : normalPort (p.scheme.getD [])
        (splitUserHostPort (p.authority.getD [])).port with
    | error f =>
      rw [hhost, Except.bind, hport] at hu
      cases hu
    | ok port =>
      rw [hhost, Except.bind, hport] at hu
      obtain rfl := Except.ok.inj hu
      rfl

/-- A URL that can be read is read after it has been extended, too, and leads to
the same place then, unless its text has become too long. -/
theorem ofText_extend (habsolute : (split cs).Absolute) (hscheme : (split cs).scheme.getD [] ≠ [])
    (hauthority : (split cs).authority ≠ some []) (hu : ofText cs = .ok u)
    (hsuffix : Continues suffix) :
    ofText (unslashed cs ++ suffix) =
      if maxLength < (unslashed cs ++ suffix).length then .error .tooLong
      else .ok (u.moved ((split cs).extend suffix)) := by
  obtain ⟨-, hvisible, hparts⟩ := ofText_eq_ok_iff.mp hu
  split_ifs with hlong
  · rw [ofText, if_pos hlong]
  · refine ofText_eq_ok_iff.mpr ⟨Nat.not_lt.mp hlong, ?_, ?_⟩
    · intro c hc
      rcases List.mem_append.mp hc with hc | hc
      · exact hvisible c (mem_of_mem_trimEnd hc)
      · exact hsuffix.visible c hc
    · rw [split_extend habsolute hauthority hsuffix]
      exact ofParts_of_same_front hscheme hparts Parts.extend_scheme Parts.extend_authority

theorem escape_append (safe : Char → Bool) (cs ds : List Char) :
    escape safe (cs ++ ds) = escape safe cs ++ escape safe ds := by
  rw [escape, escape, escape, List.flatMap_append]

/-- Characters that are safe are not escaped. -/
theorem escape_of_safe {safe : Char → Bool} (h : ∀ c ∈ cs, safe c = true) :
    escape safe cs = cs := by
  induction cs with
  | nil => rfl
  | cons c cs ih =>
    have hrest := ih fun d hd => h d (List.mem_cons_of_mem c hd)
    rw [escape] at hrest ⊢
    rw [List.flatMap_cons, if_pos (h c List.mem_cons_self), hrest, List.singleton_append]

/-- The normal path of a URL with a segment behind it is its own normal path, and
then the segment. -/
theorem escape_normalPath_append {segment : List Char} (hrooted : ∀ c ∈ cs.head?, c = '/')
    (hplain : Plain segment) (hsafe : ∀ c ∈ '/' :: segment, pathSafe c = true) :
    escape pathSafe (normalPath (cs ++ '/' :: segment)) =
      escape pathSafe (normalPath cs) ++ '/' :: segment := by
  rw [normalPath_append hrooted hplain, escape_append, escape_of_safe hsafe]

end Url

end VersionedStore
