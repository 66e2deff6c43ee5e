import VersionedStore.Proofs.Url.Origin
import VersionedStore.BaseUrl

/-!
Addresses of stores. An address that is accepted has a scheme and an authority, so
that the slashes at its end can be dropped and a path can be written behind it
without any change to the place that it leads to. What is left of an accepted
address is accepted again, and nothing more is dropped from it.
-/

namespace VersionedStore.BaseUrl

open Text

/-- A text that is accepted as an address, and the URL that it stands for. -/
structure Names (text : String) (u : Url) : Prop where
  reads : Url.ofText text.toList = .ok u
  scheme : String.ofList u.scheme ∈ schemes
  host : ∃ host, HostName.toUnicode u.host = .ok host ∧ host ≠ []

variable {text v : String} {u : Url} {suffix : List Char}

/-- The check finds no fault in just those texts that name a store. -/
theorem fault?_eq_none_iff : fault? text = none ↔ ∃ u, Names text u := by
  constructor
  · intro hnone
    unfold fault? at hnone
    split at hnone
    · cases hnone
    · rename_i u hreads
      split_ifs at hnone with hscheme
      split at hnone
      · cases hnone
      · rename_i host hhost
        split_ifs at hnone with hempty
        exact ⟨u, hreads, hscheme, host, hhost, hempty⟩
  · intro h
    obtain ⟨u, hreads, hscheme, host, hhost, hempty⟩ := h
    simp only [fault?, hreads, if_pos hscheme, hhost, if_neg hempty]

/-- What is made of a text that is accepted: the text without the slashes at its
end. -/
theorem check_eq_ok_iff : check text = .ok v ↔ (∃ u, Names text u) ∧ v = withoutSlashes text := by
  rw [← fault?_eq_none_iff, check]
  cases fault? text <;> simp [eq_comm]

theorem toList_withoutSlashes (text : String) :
    (withoutSlashes text).toList = Url.unslashed text.toList := by
  rw [withoutSlashes, String.toList_ofList, Url.unslashed]

@[simp] theorem withoutSlashes_withoutSlashes (text : String) :
    withoutSlashes (withoutSlashes text) = withoutSlashes text := by
  rw [withoutSlashes, toList_withoutSlashes, Url.unslashed, trimEnd_trimEnd, withoutSlashes]

/-- No slash is left at the end, so a path can be written behind it. -/
theorem getLast?_withoutSlashes (text : String) :
    (withoutSlashes text).toList.getLast? ≠ some '/' := by
  intro hlast
  rw [toList_withoutSlashes] at hlast
  have hslash := not_of_getLast?_trimEnd (p := (· == '/')) (Option.mem_def.mpr hlast)
  exact absurd hslash (by decide)

namespace Names

theorem scheme_ne_nil (h : Names text u) : u.scheme ≠ [] := by
  intro hnil
  have hscheme := h.scheme
  rw [hnil] at hscheme
  exact absurd hscheme (by decide)

theorem host_ne_nil (h : Names text u) : u.host ≠ [] := by
  intro hnil
  obtain ⟨host, hhost, hempty⟩ := h.host
  have hnone : HostName.toUnicode [] = .ok [] := rfl
  rw [hnil, hnone] at hhost
  exact hempty (Except.ok.inj hhost).symm

theorem isAbsolute (h : Names text u) : u.isAbsolute = true := by
  simp [Url.isAbsolute, h.scheme_ne_nil, h.host_ne_nil]

/-- The scheme of the URL is that of the text, in lower case. -/
theorem split_scheme (h : Names text u) : (Url.split text.toList).scheme.getD [] ≠ [] := by
  intro hnil
  obtain ⟨-, -, hparts⟩ := Url.ofText_eq_ok_iff.mp h.reads
  obtain ⟨hscheme, -⟩ := Url.front_of_ofParts hparts
  rw [hnil] at hscheme
  exact h.scheme_ne_nil hscheme

theorem split_authority (h : Names text u) :
    (Url.split text.toList).authority.getD [] ≠ [] := by
  intro hnil
  obtain ⟨-, -, hparts⟩ := Url.ofText_eq_ok_iff.mp h.reads
  obtain ⟨-, hhost⟩ := Url.front_of_ofParts hparts
  rw [hnil] at hhost
  have hnone : Url.normalHost (Url.splitUserHostPort []).host = .ok [] := by decide
  rw [hnone] at hhost
  exact h.host_ne_nil (Except.ok.inj hhost).symm

/-- An accepted text has a scheme and an authority, and splits where it should. -/
theorem absolute_split (h : Names text u) : (Url.split text.toList).Absolute := by
  apply Url.absolute_split
  · cases hscheme : (Url.split text.toList).scheme with
    | none => exact absurd (by rw [hscheme]; rfl) h.split_scheme
    | some name => rfl
  · cases hauthority : (Url.split text.toList).authority with
    | none => exact absurd (by rw [hauthority]; rfl) h.split_authority
    | some a => rfl

theorem authority_ne (h : Names text u) : (Url.split text.toList).authority ≠ some [] := by
  intro hempty
  exact h.split_authority (by rw [hempty]; rfl)

/-- A path behind an accepted address: how the whole is cut, and how it is read. -/
theorem extend (h : Names text u) (hsuffix : Url.Continues suffix) :
    Url.split (Url.unslashed text.toList ++ suffix) =
        (Url.split text.toList).extend suffix ∧
      Url.ofText (Url.unslashed text.toList ++ suffix) =
        if Url.maxLength < (Url.unslashed text.toList ++ suffix).length then .error .tooLong
        else .ok (u.moved ((Url.split text.toList).extend suffix)) :=
  ⟨Url.split_extend h.absolute_split h.authority_ne hsuffix,
    Url.ofText_extend h.absolute_split h.split_scheme h.authority_ne h.reads hsuffix⟩

/-- An accepted address is accepted without the slashes at its end, too. -/
theorem withoutSlashes (h : Names text u) :
    Names (withoutSlashes text) (u.moved ((Url.split text.toList).extend [])) := by
  obtain ⟨-, hreads⟩ := h.extend Url.continues_nil
  have hshort : ¬Url.maxLength < (Url.unslashed text.toList).length := by
    have hlength := (Url.ofText_eq_ok_iff.mp h.reads).1
    have hle := length_trimEnd_le (· == '/') text.toList
    rw [Url.unslashed]
    omega
  rw [List.append_nil, if_neg hshort] at hreads
  exact ⟨by rw [toList_withoutSlashes, hreads], h.scheme, h.host⟩

end Names

/-- What an address has been made of it is accepted as it is. -/
theorem check_of_check (h : check text = .ok v) : check v = .ok v := by
  obtain ⟨⟨u, hu⟩, rfl⟩ := check_eq_ok_iff.mp h
  exact check_eq_ok_iff.mpr ⟨⟨_, hu.withoutSlashes⟩, (withoutSlashes_withoutSlashes text).symm⟩

end VersionedStore.BaseUrl
