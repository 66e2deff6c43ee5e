import VersionedStore.Proofs.Json.Grammar.Values

/-!
Values inside other values. A text that denotes a value inside of containers denotes
the same value outside of them, where even more may be nested in it; so what is nested
in the value of a body can be sent as a body of its own.
-/

namespace VersionedStore.Json.Grammar

mutual

/-- A value may stand less deep than it does. -/
theorem Value.of_level_le {level level' : ℕ} (hle : level' ≤ level) :
    ∀ {t : List Char} {j : Json}, Value level t j → Value level' t j
  | _, _, .word h => .word h
  | _, _, .positive h => .positive h
  | _, _, .negative h => .negative h
  | _, _, .string h => .string h
  | _, _, .emptyArray hlevel h => .emptyArray (by omega) h
  | _, _, .array hlevel h => .array (by omega) (h.of_level_le (Nat.succ_le_succ hle))
  | _, _, .emptyObject hlevel h => .emptyObject (by omega) h
  | _, _, .object hlevel h => .object (by omega) (h.of_level_le (Nat.succ_le_succ hle))

theorem Elements.of_level_le {level level' : ℕ} (hle : level' ≤ level) :
    ∀ {t : List Char} {js : List Json}, Elements level t js → Elements level' t js
  | _, _, .one hg h hg' => .one hg (h.of_level_le hle) hg'
  | _, _, .cons hg h hg' hs => .cons hg (h.of_level_le hle) hg' (hs.of_level_le hle)

theorem Member.of_level_le {level level' : ℕ} (hle : level' ≤ level) :
    ∀ {t : List Char} {m : String × Json}, Member level t m → Member level' t m
  | _, _, .mk hn hg hg' h => .mk hn hg hg' (h.of_level_le hle)

theorem Members.of_level_le {level level' : ℕ} (hle : level' ≤ level) :
    ∀ {t : List Char} {ms : List (String × Json)}, Members level t ms → Members level' t ms
  | _, _, .one hg h hg' => .one hg (h.of_level_le hle) hg'
  | _, _, .cons hg h hg' hs => .cons hg (h.of_level_le hle) hg' (hs.of_level_le hle)

end

theorem Separated.exists_of_mem {α : Type} {G : List Char → α → Prop} {t : List Char} {xs : List α}
    {x : α} (h : Separated G t xs) (hx : x ∈ xs) : ∃ u, G u x := by
  induction h with
  | one _ h =>
    obtain rfl := List.mem_singleton.mp hx
    exact ⟨_, h⟩
  | cons _ h _ _ ih =>
    rcases List.mem_cons.mp hx with rfl | hx
    · exact ⟨_, h⟩
    · exact ih hx

/-- A value inside another one is denoted by a body of its own. -/
theorem Value.exists_denotes {level : ℕ} {t : List Char} {j : Json} (h : Value level t j)
    (hlevel : 1 ≤ level) : ∃ body, Denotes body j := by
  have hnone : Gap [] := by simp [Gap]
  refine ⟨(String.ofList t).toUTF8, String.ofList t, rfl, [], t, [], hnone, ?_, hnone, ?_⟩
  · exact h.of_level_le hlevel
  · simp

/-- An element of an array in a body can be sent alone. -/
theorem exists_denotes_of_element {body : ByteArray} {ms : List (String × Json)} {name : String}
    {js : List Json} {j : Json} (hbody : Denotes body (.object ms))
    (hmember : (name, .array js) ∈ ms) (hj : j ∈ js) : ∃ part, Denotes part j := by
  obtain ⟨_, -, _, _, _, -, hvalue, -, -⟩ := hbody
  cases hvalue with
  | object _ hms =>
    obtain ⟨_, hitem⟩ := (separated_of_members hms).exists_of_mem hmember
    cases hitem with
    | mk _ _ _ harray =>
      cases harray with
      | array _ hjs =>
        obtain ⟨_, helement⟩ := (separated_of_elements hjs).exists_of_mem hj
        exact helement.exists_denotes (by omega)
      | emptyArray => cases hj
      | word h | positive h | negative h => cases h
  | emptyObject => cases hmember
  | word h | positive h | negative h => cases h

end VersionedStore.Json.Grammar
