import Mathlib.Tactic.Common
import VersionedStore.Base64

/-!
The base64 text of a row of bytes is read back as the same bytes. The alphabet
gives every value of six bits a character of its own. The encoder keeps whole
groups of four, so the scanner is in the same state at the start of each group.
-/

namespace VersionedStore.Base64

theorem value?_symbol : ∀ v, v < 64 → value? (symbol v) = some v := by decide

theorem symbol_toNat_le : ∀ v, v < 64 → (symbol v).toNat ≤ 0x7f := by decide

theorem symbol_ne_pad : ∀ v, v < 64 → symbol v ≠ '=' := by decide

/-- Before padding has begun, a character of the alphabet adds its value and
leaves the scanner one character further on. -/
theorem scan_symbol (count pads v : ℕ) (cs : List Char) (hv : v < 64) :
    scan count pads false (symbol v :: cs) =
      (scan (count + 1) pads false cs).map (v :: ·) := by
  rw [scan, if_neg (symbol_ne_pad v hv), value?_symbol v hv]
  rfl

theorem ofNat_eq_of_mod {n : ℕ} {b : UInt8} (h : n % 256 = b.toNat) : UInt8.ofNat n = b := by
  apply UInt8.toNat_inj.mp
  rw [UInt8.toNat_ofNat']
  exact h

/-- The scanner, starting between two groups, gives values that pack to the
bytes. -/
theorem exists_scan_encode (bs : List UInt8) (count : ℕ) (hcount : count % 4 = 0) :
    ∃ vs, scan count 0 false (encode bs) = .ok vs ∧ pack vs = bs := by
  induction bs using encode.induct generalizing count with
  | case1 => exact ⟨[], by simp [encode, scan, hcount], rfl⟩
  | case2 a =>
    have ha := a.toNat_lt
    have hquad : (count + 1 + 1) % 4 = 2 := by omega
    refine ⟨[a.toNat * 16 / 64, a.toNat * 16 % 64], ?_, ?_⟩
    · rw [encode, scan_symbol _ _ _ _ (by omega), scan_symbol _ _ _ _ (by omega)]
      simp [scan, hquad, Except.map]
    · rw [pack, ofNat_eq_of_mod (b := a) (by omega)]
  | case3 a b =>
    have ha := a.toNat_lt
    have hb := b.toNat_lt
    have hquad : (count + 1 + 1 + 1) % 4 = 3 := by omega
    refine ⟨[(a.toNat * 256 + b.toNat) * 4 / 4096, (a.toNat * 256 + b.toNat) * 4 / 64 % 64,
      (a.toNat * 256 + b.toNat) * 4 % 64], ?_, ?_⟩
    · rw [encode, scan_symbol _ _ _ _ (by omega), scan_symbol _ _ _ _ (by omega),
        scan_symbol _ _ _ _ (by omega)]
      simp [scan, hquad, Except.map]
    · rw [pack, ofNat_eq_of_mod (b := a) (by omega), ofNat_eq_of_mod (b := b) (by omega)]
  | case4 a b c rest ih =>
    have ha := a.toNat_lt
    have hb := b.toNat_lt
    have hc := c.toNat_lt
    obtain ⟨vs, hscan, hpack⟩ := ih (count + 1 + 1 + 1 + 1) (by omega)
    refine ⟨((a.toNat * 256 + b.toNat) * 256 + c.toNat) / 262144 ::
      ((a.toNat * 256 + b.toNat) * 256 + c.toNat) / 4096 % 64 ::
      ((a.toNat * 256 + b.toNat) * 256 + c.toNat) / 64 % 64 ::
      ((a.toNat * 256 + b.toNat) * 256 + c.toNat) % 64 :: vs, ?_, ?_⟩
    · rw [encode, scan_symbol _ _ _ _ (by omega), scan_symbol _ _ _ _ (by omega),
        scan_symbol _ _ _ _ (by omega), scan_symbol _ _ _ _ (by omega), hscan]
      rfl
    · rw [pack, ofNat_eq_of_mod (b := a) (by omega), ofNat_eq_of_mod (b := b) (by omega),
        ofNat_eq_of_mod (b := c) (by omega), hpack]

/-- Encoded bytes are ASCII, so that they survive inside any body. -/
theorem encode_toNat_le (bs : List UInt8) : ∀ c ∈ encode bs, c.toNat ≤ 0x7f := by
  induction bs using encode.induct with
  | case1 => simp [encode]
  | case2 a =>
    have ha := a.toNat_lt
    simp only [encode, List.mem_cons, List.not_mem_nil, or_false]
    intro c hc
    rcases hc with rfl | rfl | rfl | rfl
    · exact symbol_toNat_le _ (by omega)
    · exact symbol_toNat_le _ (by omega)
    · decide
    · decide
  | case3 a b =>
    have ha := a.toNat_lt
    have hb := b.toNat_lt
    simp only [encode, List.mem_cons, List.not_mem_nil, or_false]
    intro c hc
    rcases hc with rfl | rfl | rfl | rfl
    · exact symbol_toNat_le _ (by omega)
    · exact symbol_toNat_le _ (by omega)
    · exact symbol_toNat_le _ (by omega)
    · decide
  | case4 a b c rest ih =>
    have ha := a.toNat_lt
    have hb := b.toNat_lt
    have hc := c.toNat_lt
    simp only [encode, List.mem_cons]
    intro d hd
    rcases hd with rfl | rfl | rfl | rfl | hd
    · exact symbol_toNat_le _ (by omega)
    · exact symbol_toNat_le _ (by omega)
    · exact symbol_toNat_le _ (by omega)
    · exact symbol_toNat_le _ (by omega)
    · exact ih d hd

/-- An encoded text never starts with padding. -/
theorem head?_encode_ne (bs : List UInt8) : (encode bs).head? ≠ some '=' := by
  cases bs using encode.fun_cases with
  | case1 => simp [encode]
  | case2 a =>
    have ha := a.toNat_lt
    simpa [encode] using symbol_ne_pad _ (by omega)
  | case3 a b =>
    have ha := a.toNat_lt
    have hb := b.toNat_lt
    simpa [encode] using symbol_ne_pad _ (by omega)
  | case4 a b c rest =>
    have ha := a.toNat_lt
    have hb := b.toNat_lt
    have hc := c.toNat_lt
    simpa [encode] using symbol_ne_pad _ (by omega)

/-- Decoding undoes encoding, without regard to what the bytes are. -/
theorem decode_encode (bs : List UInt8) : decode (encode bs) = .ok bs := by
  have hascii : ¬ ((encode bs).any fun c => 0x7f < c.toNat) = true := by
    simpa using encode_toNat_le bs
  obtain ⟨vs, hscan, hpack⟩ := exists_scan_encode bs 0 rfl
  rw [decode, if_neg hascii, if_neg (head?_encode_ne bs), hscan]
  exact congrArg Except.ok hpack

end VersionedStore.Base64
