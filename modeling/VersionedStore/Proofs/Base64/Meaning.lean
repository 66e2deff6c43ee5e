import Mathlib
import VersionedStore.Proofs.Base64

/-!
Which texts are base64 texts, and which bytes they stand for. A text is data and
then padding; what padding may follow is a matter of how many characters of data
there are. The bits of the data, six for a character, are those of the bytes, eight
for a byte, and a few more, which are dropped.
-/

namespace VersionedStore.Base64

def alphabet : List Char :=
  "ABCDEFGHIJKLMNOPQRSTUVWXYZabcdefghijklmnopqrstuvwxyz0123456789+/".toList

def bits : ℕ → ℕ → List Bool
  | 0, _ => []
  | width + 1, n => n.testBit width :: bits width n

/-- How many padding characters may follow so many characters of data. After whole
groups it does not matter how many there are. -/
inductive Closes : ℕ → ℕ → Prop where
  | empty : Closes 0 0
  | whole {count pads : ℕ} (hcount : count % 4 = 0) (hpos : 0 < count) : Closes count pads
  | two {count : ℕ} (hcount : count % 4 = 2) : Closes count 2
  | three {count : ℕ} (hcount : count % 4 = 3) : Closes count 1

/-- A text is some data and then padding that may follow it. -/
structure Spells (text data : List Char) : Prop where
  alphabet : ∀ c ∈ data, c ∈ alphabet
  padding : ∃ pads, text = data ++ List.replicate pads '=' ∧ Closes data.length pads

/-- Bytes are what some data stands for: as many as there are bits for, and made of
these bits. -/
structure Holds (data : List Char) (bytes : List UInt8) : Prop where
  length : bytes.length = 6 * data.length / 8
  bits : bytes.flatMap (fun b => bits 8 b.toNat) =
    (data.flatMap fun c => bits 6 (alphabet.idxOf c)).take (8 * bytes.length)

section Alphabet

variable {c : Char}

theorem length_alphabet : alphabet.length = 64 := by decide

-- written with `all`, so that the alphabet is gone through and not the type of characters
theorem symbol_idxOf : ∀ c ∈ alphabet, symbol (alphabet.idxOf c) = c := by
  have hall : (alphabet.all fun c => symbol (alphabet.idxOf c) = c) = true := by decide
  simpa only [List.all_eq_true, decide_eq_true_eq] using hall

theorem ne_pad_of_mem : ∀ c ∈ alphabet, c ≠ '=' := by
  have hall : (alphabet.all fun c => c ≠ '=') = true := by decide
  simpa only [List.all_eq_true, decide_eq_true_eq] using hall

theorem toNat_le_of_mem : ∀ c ∈ alphabet, c.toNat ≤ 0x7f := by
  have hall : (alphabet.all fun c => c.toNat ≤ 0x7f) = true := by decide
  simpa only [List.all_eq_true, decide_eq_true_eq] using hall

theorem idxOf_lt (hc : c ∈ alphabet) : alphabet.idxOf c < 64 :=
  length_alphabet ▸ List.idxOf_lt_length_of_mem hc

/-- The value of a character is its place in the alphabet. -/
theorem value?_of_mem (hc : c ∈ alphabet) : value? c = some (alphabet.idxOf c) := by
  have hvalue := value?_symbol _ (idxOf_lt hc)
  rwa [symbol_idxOf c hc] at hvalue

theorem value?_of_not_ascii (hc : 0x7f < c.toNat) : value? c = none := by
  have hne : ∀ d : Char, d.toNat ≤ 0x7f → c ≠ d := by
    rintro d hd rfl
    omega
  have hupper : c.isUpper = false := by
    simp [Char.isUpper, UInt32.le_iff_toNat_le]
    omega
  have hlower : c.isLower = false := by
    simp [Char.isLower, UInt32.le_iff_toNat_le]
    omega
  have hdigit : c.isDigit = false := by
    simp [Char.isDigit, UInt32.le_iff_toNat_le]
    omega
  simp [value?, hupper, hlower, hdigit, hne '+' (by decide), hne '/' (by decide)]

/-- Only characters of the alphabet have a value; below 128 that can be looked up. -/
theorem mem_of_value?_ofNat :
    ∀ n < 128, (value? (Char.ofNat n)).isSome = true → Char.ofNat n ∈ alphabet := by
  decide +kernel

/-- The scanner takes a character for data just if it is in the alphabet. -/
theorem mem_of_value? {v : ℕ} (h : value? c = some v) : c ∈ alphabet := by
  have hascii : c.toNat < 128 := by
    by_contra hhigh
    rw [value?_of_not_ascii (by omega)] at h
    cases h
  have hmem := mem_of_value?_ofNat c.toNat hascii
  rw [Char.ofNat_toNat, h] at hmem
  exact hmem rfl

end Alphabet

section Scanner

variable {count pads : ℕ} {padded : Bool} {cs data : List Char} {vs : List ℕ}

/-- Data adds its values and leaves the scanner as many characters further on. -/
theorem scan_data (hdata : ∀ c ∈ data, c ∈ alphabet) (count : ℕ) (cs : List Char) :
    scan count pads false (data ++ cs) =
      (scan (count + data.length) pads false cs).map (data.map alphabet.idxOf ++ ·) := by
  induction data generalizing count with
  | nil =>
    rw [List.nil_append, List.length_nil, Nat.add_zero]
    cases scan count pads false cs <;> rfl
  | cons c data ih =>
    obtain ⟨hc, hrest⟩ := List.forall_mem_cons.mp hdata
    rw [List.cons_append, scan, if_neg (ne_pad_of_mem c hc), value?_of_mem hc]
    simp only [Bool.false_eq_true, if_false]
    rw [ih hrest, List.length_cons, Nat.add_right_comm, Nat.add_assoc]
    cases scan (count + (data.length + 1)) pads false cs <;> rfl

/-- Padding alone is accepted between groups, and where it just fills an open group. -/
theorem scan_padding (hpads : count % 4 + pads < 4) (n : ℕ) (padded : Bool) :
    scan count pads padded (List.replicate n '=') = .ok vs ↔
      vs = [] ∧ (count % 4 = 0 ∨ 2 ≤ count % 4 ∧ count % 4 + pads + n = 4) := by
  induction n generalizing pads padded with
  | zero =>
    rw [List.replicate_zero, scan]
    split_ifs with hwhole hlone <;> simp [eq_comm] <;> omega
  | succ n ih =>
    rw [List.replicate_succ, scan, if_pos rfl]
    split_ifs with hopen hfull hempty
    · obtain rfl : n = 0 := by simpa using hempty
      simp [eq_comm]
      omega
    · have hn : n ≠ 0 := by simpa using hempty
      simp
      omega
    · rw [ih (by omega)]
      refine and_congr_right fun _ => ?_
      omega
    · rw [ih hpads]
      refine and_congr_right fun _ => ?_
      omega

/-- What is accepted is data and then padding, or padding alone once it has begun. -/
theorem exists_of_scan (h : scan count pads padded cs = .ok vs) :
    ∃ data n, cs = data ++ List.replicate n '=' ∧ (∀ c ∈ data, c ∈ alphabet) ∧
      (padded = true → data = []) := by
  -- After a padding character the rest is padding as well.
  have hmore : ∀ {cs : List Char} {data : List Char} {n : ℕ}, cs = data ++ List.replicate n '=' →
      data = [] → '=' :: cs = [] ++ List.replicate (n + 1) '=' := by
    rintro cs data n rfl rfl
    rfl
  induction cs generalizing count pads padded vs with
  | nil => exact ⟨[], 0, rfl, by simp, fun _ => rfl⟩
  | cons c cs ih =>
    by_cases hpad : c = '='
    · subst hpad
      rw [scan, if_pos rfl] at h
      split_ifs at h with hopen hfull hempty
      · obtain rfl : cs = [] := by simpa using hempty
        exact ⟨[], 1, rfl, by simp, fun _ => rfl⟩
      · obtain ⟨data, n, hcs, -, hdata⟩ := ih h
        exact ⟨[], n + 1, hmore hcs (hdata rfl), by simp, fun _ => rfl⟩
      · obtain ⟨data, n, hcs, -, hdata⟩ := ih h
        exact ⟨[], n + 1, hmore hcs (hdata rfl), by simp, fun _ => rfl⟩
    · rw [scan, if_neg hpad] at h
      cases hvalue : value? c with
      | none =>
        rw [hvalue] at h
        cases h
      | some v =>
        rw [hvalue] at h
        dsimp only at h
        split_ifs at h with hbegun
        cases hrest : scan (count + 1) pads false cs with
        | error f =>
          rw [hrest] at h
          cases h
        | ok rest =>
          obtain ⟨data, n, rfl, hdata, -⟩ := ih hrest
          exact ⟨c :: data, n, rfl, List.forall_mem_cons.mpr ⟨mem_of_value? hvalue, hdata⟩,
            fun hpadded => absurd hpadded hbegun⟩

theorem closes_iff {count pads : ℕ} : Closes count pads ↔
    (count = 0 → pads = 0) ∧ (count % 4 = 0 ∨ 2 ≤ count % 4 ∧ count % 4 + pads = 4) := by
  constructor
  · intro h
    cases h <;> omega
  · rintro ⟨hempty, hwhole | ⟨hopen, hfull⟩⟩
    · rcases Nat.eq_zero_or_pos count with rfl | hpos
      · obtain rfl := hempty rfl
        exact .empty
      · exact .whole hwhole hpos
    · obtain htwo | hthree : count % 4 = 2 ∨ count % 4 = 3 := by omega
      · obtain rfl : pads = 2 := by omega
        exact .two htwo
      · obtain rfl : pads = 1 := by omega
        exact .three hthree

/-- A text without padding in front is scanned just if it spells data; what it is
scanned to are the values of the data. -/
theorem scan_eq_ok_iff (hleading : cs.head? ≠ some '=') :
    scan 0 0 false cs = .ok vs ↔ ∃ data, Spells cs data ∧ data.map alphabet.idxOf = vs := by
  have hscan : ∀ {data : List Char} (pads : ℕ), (∀ c ∈ data, c ∈ alphabet) →
      (scan 0 0 false (data ++ List.replicate pads '=') = .ok vs ↔
        data.map alphabet.idxOf = vs ∧ (data.length % 4 = 0 ∨
          2 ≤ data.length % 4 ∧ data.length % 4 + pads = 4)) := by
    intro data pads hdata
    have hpadding : ∀ {ws}, scan data.length 0 false (List.replicate pads '=') = .ok ws ↔
        ws = [] ∧ (data.length % 4 = 0 ∨ 2 ≤ data.length % 4 ∧ data.length % 4 + pads = 4) :=
      scan_padding (by omega) pads false
    rw [scan_data hdata, Nat.zero_add]
    constructor
    · intro h
      cases hrest : scan data.length 0 false (List.replicate pads '=') with
      | error f =>
        rw [hrest] at h
        cases h
      | ok ws =>
        obtain ⟨rfl, hfills⟩ := hpadding.mp hrest
        rw [hrest] at h
        exact ⟨by simpa using Except.ok.inj h, hfills⟩
    · rintro ⟨rfl, hfills⟩
      rw [hpadding.mpr ⟨rfl, hfills⟩]
      exact congrArg Except.ok (List.append_nil _)
  constructor
  · intro h
    obtain ⟨data, pads, rfl, hdata, -⟩ := exists_of_scan h
    obtain ⟨hvs, hpadding⟩ := (hscan pads hdata).mp h
    have hempty : data.length = 0 → pads = 0 := by
      intro hlength
      obtain rfl := List.length_eq_zero_iff.mp hlength
      cases pads with
      | zero => rfl
      | succ pads => exact absurd rfl hleading
    exact ⟨data, ⟨hdata, pads, rfl, closes_iff.mpr ⟨hempty, hpadding⟩⟩, hvs⟩
  · rintro ⟨data, ⟨hdata, pads, rfl, hcloses⟩, hvs⟩
    exact (hscan pads hdata).mpr ⟨hvs, (closes_iff.mp hcloses).2⟩

theorem head?_ne_of_spells (h : Spells cs data) : cs.head? ≠ some '=' := by
  obtain ⟨hdata, pads, rfl, hcloses⟩ := h
  cases data with
  | nil =>
    obtain rfl := (closes_iff.mp hcloses).1 rfl
    simp
  | cons c data => simpa using ne_pad_of_mem c (hdata c (List.mem_cons_self))

theorem ascii_of_spells (h : Spells cs data) : ∀ c ∈ cs, c.toNat ≤ 0x7f := by
  obtain ⟨hdata, pads, rfl, -⟩ := h
  intro c hc
  rcases List.mem_append.mp hc with hc | hc
  · exact toNat_le_of_mem c (hdata c hc)
  · rw [List.eq_of_mem_replicate hc]
    decide

/-- A text is decoded just if it spells data; then the values of the data are packed. -/
theorem decode_eq_ok_iff_pack {bytes : List UInt8} :
    decode cs = .ok bytes ↔ ∃ data, Spells cs data ∧ pack (data.map alphabet.idxOf) = bytes := by
  constructor
  · intro h
    rw [decode] at h
    split_ifs at h with hascii hleading
    cases hscan : scan 0 0 false cs with
    | error f =>
      rw [hscan] at h
      cases h
    | ok vs =>
      rw [hscan] at h
      obtain ⟨data, hspells, rfl⟩ := (scan_eq_ok_iff hleading).mp hscan
      exact ⟨data, hspells, Except.ok.inj h⟩
  · rintro ⟨data, hspells, rfl⟩
    have hleading := head?_ne_of_spells hspells
    have hascii : ¬(cs.any fun c => 0x7f < c.toNat) = true := by
      simpa using ascii_of_spells hspells
    rw [decode, if_neg hascii, if_neg hleading,
      (scan_eq_ok_iff hleading).mpr ⟨data, hspells, rfl⟩]
    rfl

end Scanner

section Bits

variable {n m width : ℕ}

theorem length_bits (width n : ℕ) : (bits width n).length = width := by
  induction width with
  | zero => rfl
  | succ width ih => rw [bits, List.length_cons, ih]

/-- The bits of a number are those of its quotient and then those of its rest. -/
theorem bits_add (width low n : ℕ) :
    bits (width + low) n = bits width (n / 2 ^ low) ++ bits low n := by
  induction width with
  | zero => rw [Nat.zero_add]; rfl
  | succ width ih =>
    rw [Nat.add_right_comm, bits, ih, bits, List.cons_append, Nat.testBit_div_two_pow]

theorem bits_eq_iff : bits width n = bits width m ↔ ∀ i < width, n.testBit i = m.testBit i := by
  induction width with
  | zero => simp [bits]
  | succ width ih =>
    rw [bits, bits, List.cons.injEq, ih, Nat.forall_lt_succ_right, and_comm]

theorem bits_mod (width n : ℕ) : bits width (n % 2 ^ width) = bits width n := by
  rw [bits_eq_iff]
  intro i hi
  simp [Nat.testBit_mod_two_pow, hi]

theorem bits_toNat_ofNat (n : ℕ) : bits 8 (UInt8.ofNat n).toNat = bits 8 n := by
  rw [UInt8.toNat_ofNat']
  exact bits_mod 8 n

theorem bits_toNat_inj {a b : UInt8} : bits 8 a.toNat = bits 8 b.toNat ↔ a = b := by
  refine ⟨fun h => ?_, fun h => by rw [h]⟩
  have hbits := bits_eq_iff.mp h
  have ha := a.toNat_lt
  have hb := b.toNat_lt
  rw [← UInt8.toNat_inj]
  refine Nat.eq_of_testBit_eq fun i => ?_
  by_cases hi : i < 8
  · exact hbits i hi
  · have hpow : 2 ^ 8 ≤ 2 ^ i := Nat.pow_le_pow_right (by decide) (by omega)
    rw [Nat.testBit_lt_two_pow (by omega), Nat.testBit_lt_two_pow (by omega)]

variable {v : ℕ}

/-- A value of six bits behind a number adds its bits at the end. -/
theorem bits_mul_add (width n : ℕ) (hv : v < 64) :
    bits (width + 6) (n * 64 + v) = bits width n ++ bits 6 v := by
  have hrest : bits 6 (n * 64 + v) = bits 6 v := by
    rw [← bits_mod, show (n * 64 + v) % 2 ^ 6 = v by omega]
  rw [bits_add, hrest, show (n * 64 + v) / 2 ^ 6 = n by omega]

/-- Two bytes of a number, the lower `low` bits of which are left over. -/
theorem bits_two_bytes (low n : ℕ) :
    bits (16 + low) n = (bits 8 (n / (256 * 2 ^ low)) ++ bits 8 (n / 2 ^ low)) ++ bits low n := by
  have hbytes : bits 16 (n / 2 ^ low) = bits 8 (n / 2 ^ low / 256) ++ bits 8 (n / 2 ^ low) :=
    bits_add 8 8 _
  rw [bits_add, hbytes, Nat.div_div_eq_div_mul, Nat.mul_comm]

/-- Packed values are as many bytes as there are bits for, and have these bits. -/
theorem pack_spec (vs : List ℕ) (hvs : ∀ v ∈ vs, v < 64) :
    (pack vs).length = 6 * vs.length / 8 ∧
      (pack vs).flatMap (fun b => bits 8 b.toNat) =
        (vs.flatMap (bits 6)).take (8 * (pack vs).length) := by
  induction vs using pack.induct with
  | case1 a b c d rest ih =>
    simp only [List.forall_mem_cons] at hvs
    obtain ⟨-, hb, hc, hd, hrest⟩ := hvs
    obtain ⟨hlength, hbits⟩ := ih hrest
    have hgroup : bits 6 a ++ bits 6 b ++ bits 6 c ++ bits 6 d =
        bits 24 (((a * 64 + b) * 64 + c) * 64 + d) := by
      rw [bits_mul_add 18 _ hd, bits_mul_add 12 _ hc, bits_mul_add 6 _ hb]
    refine ⟨?_, ?_⟩
    · simp only [pack, List.length_cons, hlength]
      omega
    · have hsplit : 8 * (pack (a :: b :: c :: d :: rest)).length =
          (bits 24 (((a * 64 + b) * 64 + c) * 64 + d)).length + 8 * (pack rest).length := by
        simp only [pack, List.length_cons, length_bits]
        omega
      have hvalues : (a :: b :: c :: d :: rest).flatMap (bits 6) =
          bits 24 (((a * 64 + b) * 64 + c) * 64 + d) ++ rest.flatMap (bits 6) := by
        simp only [List.flatMap_cons, ← hgroup, List.append_assoc]
      rw [hsplit, hvalues, List.take_length_add_append, ← hbits, bits_two_bytes 8]
      simp only [pack, List.flatMap_cons, bits_toNat_ofNat, List.append_assoc, Nat.reducePow,
        Nat.reduceMul]
  | case2 a b c =>
    simp only [List.forall_mem_cons] at hvs
    obtain ⟨-, hb, hc, -⟩ := hvs
    have hvalues : [a, b, c].flatMap (bits 6) = bits 18 ((a * 64 + b) * 64 + c) := by
      rw [bits_mul_add 12 _ hc, bits_mul_add 6 _ hb]
      simp
    refine ⟨by simp [pack], ?_⟩
    rw [hvalues, bits_two_bytes 2, List.take_left' (by simp [pack, length_bits])]
    simp only [pack, List.flatMap_cons, List.flatMap_nil, bits_toNat_ofNat, List.append_nil,
      Nat.reducePow, Nat.reduceMul]
  | case3 a b =>
    simp only [List.forall_mem_cons] at hvs
    obtain ⟨-, hb, -⟩ := hvs
    have hvalues : [a, b].flatMap (bits 6) = bits 12 (a * 64 + b) := by
      rw [bits_mul_add 6 _ hb]
      simp
    refine ⟨by simp [pack], ?_⟩
    rw [hvalues, bits_add 8 4, List.take_left' (by simp [pack, length_bits])]
    simp only [pack, List.flatMap_cons, List.flatMap_nil, bits_toNat_ofNat, List.append_nil,
      Nat.reducePow]
  | case4 vs hfour hthree htwo =>
    rcases vs with _ | ⟨a, _ | ⟨b, _ | ⟨c, _ | ⟨d, rest⟩⟩⟩⟩
    · exact ⟨rfl, rfl⟩
    · simp [pack]
    · exact absurd rfl (htwo a b)
    · exact absurd rfl (hthree a b c)
    · exact absurd rfl (hfour a b c d rest)

/-- Bytes are told by their bits. -/
theorem eq_of_bits {bs bs' : List UInt8} (hlength : bs.length = bs'.length)
    (h : bs.flatMap (fun b => bits 8 b.toNat) = bs'.flatMap (fun b => bits 8 b.toNat)) :
    bs = bs' := by
  induction bs generalizing bs' with
  | nil => exact (List.length_eq_zero_iff.mp hlength.symm).symm
  | cons b bs ih =>
    cases bs' with
    | nil => cases hlength
    | cons b' bs' =>
      rw [List.flatMap_cons, List.flatMap_cons] at h
      obtain ⟨hfirst, hrest⟩ := List.append_inj h (by rw [length_bits, length_bits])
      rw [bits_toNat_inj.mp hfirst, ih (Nat.succ.inj hlength) hrest]

/-- Data stands for the bytes that its values are packed to, and for no others. -/
theorem holds_iff {data : List Char} (hdata : ∀ c ∈ data, c ∈ alphabet) {bytes : List UInt8} :
    Holds data bytes ↔ pack (data.map alphabet.idxOf) = bytes := by
  have hvalues : ∀ v ∈ data.map alphabet.idxOf, v < 64 := by
    simpa using fun c hc => idxOf_lt (hdata c hc)
  obtain ⟨hlength, hbits⟩ := pack_spec _ hvalues
  rw [List.length_map] at hlength
  rw [List.flatMap_map] at hbits
  constructor
  · rintro ⟨hlength', hbits'⟩
    have hsame := hlength.trans hlength'.symm
    rw [hsame, ← hbits'] at hbits
    exact eq_of_bits hsame hbits
  · rintro rfl
    exact ⟨hlength, hbits⟩

end Bits

/-- A text is decoded just if it spells data, and to the bytes that the data stands
for. -/
theorem decode_eq_ok_iff {cs : List Char} {bytes : List UInt8} :
    decode cs = .ok bytes ↔ ∃ data, Spells cs data ∧ Holds data bytes := by
  rw [decode_eq_ok_iff_pack]
  refine exists_congr fun data => and_congr_right fun hspells => ?_
  exact (holds_iff hspells.alphabet).symm

/-- A text that follows the spelling is decoded, to the bytes that its data stands for. -/
theorem exists_decode_of_spells {cs data : List Char} (h : Spells cs data) :
    ∃ bytes, decode cs = .ok bytes ∧ Holds data bytes :=
  ⟨_, decode_eq_ok_iff_pack.mpr ⟨data, h, rfl⟩, (holds_iff h.alphabet).mpr rfl⟩

/-- Whatever does not follow the spelling is refused. -/
theorem exists_fault_of_not_spells {cs : List Char} (h : ¬∃ data, Spells cs data) :
    ∃ fault, decode cs = .error fault := by
  cases hdecode : decode cs with
  | error fault => exact ⟨fault, rfl⟩
  | ok bytes =>
    obtain ⟨data, hdata, -⟩ := decode_eq_ok_iff.mp hdecode
    exact absurd ⟨data, hdata⟩ h

end VersionedStore.Base64
