import VersionedStore.Proofs.Json.Numerals
import VersionedStore.Proofs.Json.Quoted
import VersionedStore.Proofs.Json.Containers

/-!
The text of a JSON value is read back as that value. Two limits of the reader
are not known to the printer. How deep containers are nested is bounded by
hypothesis. Long numbers are not: the text of a value that has one somewhere is
refused as a whole, so that no text is ever read as another value than the one
it was written from.
-/

namespace VersionedStore.Json

open Number

mutual

def depth : Json → ℕ
  | .array items => depthItems items
  | .object members => depthMembers members
  | _ => 0

def depthItems : List Json → ℕ
  | [] => 0
  | j :: js => max (depth j + 1) (depthItems js)

def depthMembers : List (String × Json) → ℕ
  | [] => 0
  | (_, j) :: rest => max (depth j + 1) (depthMembers rest)

end

mutual

def wholes : Json → List ℕ
  | .integer n => [n.natAbs]
  | .real (.decimal d) => [d.mantissa]
  | .array items => wholesItems items
  | .object members => wholesMembers members
  | _ => []

def wholesItems : List Json → List ℕ
  | [] => []
  | j :: js => wholes j ++ wholesItems js

def wholesMembers : List (String × Json) → List ℕ
  | [] => []
  | (_, j) :: rest => wholes j ++ wholesMembers rest

end

abbrev Readable (j : Json) : Prop := ∀ n ∈ wholes j, n < 10 ^ maxDigits

theorem depth_lt_of_mem_items {j : Json} {js : List Json} (hj : j ∈ js) :
    depth j < depthItems js := by
  induction js with
  | nil => simp at hj
  | cons k js ih =>
    rw [depthItems]
    rcases List.mem_cons.mp hj with rfl | hj
    · omega
    · have := ih hj
      omega

theorem depth_lt_of_mem_members {m : String × Json} {ms : List (String × Json)} (hm : m ∈ ms) :
    depth m.2 < depthMembers ms := by
  induction ms with
  | nil => simp at hm
  | cons k ms ih =>
    rw [depthMembers]
    rcases List.mem_cons.mp hm with rfl | hm
    · omega
    · have := ih hm
      omega

theorem wholesItems_eq (js : List Json) : wholesItems js = js.flatMap wholes := by
  induction js with
  | nil => rfl
  | cons j js ih => rw [wholesItems, ih, List.flatMap_cons]

theorem wholesMembers_eq (ms : List (String × Json)) :
    wholesMembers ms = ms.flatMap fun m => wholes m.2 := by
  induction ms with
  | nil => rfl
  | cons m ms ih => rw [wholesMembers, ih, List.flatMap_cons]

theorem readable_array (js : List Json) : Readable (.array js) ↔ ∀ j ∈ js, Readable j := by
  simp only [Readable, wholes, wholesItems_eq, List.mem_flatMap]
  constructor
  · exact fun h j hj n hn => h n ⟨j, hj, hn⟩
  · intro h n hmem
    obtain ⟨j, hj, hn⟩ := hmem
    exact h j hj n hn

theorem readable_object (ms : List (String × Json)) :
    Readable (.object ms) ↔ ∀ m ∈ ms, Readable m.2 := by
  simp only [Readable, wholes, wholesMembers_eq, List.mem_flatMap]
  constructor
  · exact fun h m hm n hn => h n ⟨m, hm, hn⟩
  · intro h n hmem
    obtain ⟨m, hm, hn⟩ := hmem
    exact h m hm n hn

def writeMember (m : String × Json) : List Char := writeString m.1 ++ ':' :: write m.2

theorem writeItems_eq (js : List Json) : writeItems js = commaSeparated write js := by
  induction js with
  | nil => rfl
  | cons j js ih =>
    cases js with
    | nil => rfl
    | cons k ks => rw [writeItems, commaSeparated, ih]; simp

theorem writeMembers_eq (ms : List (String × Json)) :
    writeMembers ms = commaSeparated writeMember ms := by
  induction ms with
  | nil => rfl
  | cons m ms ih =>
    cases ms with
    | nil => rfl
    | cons k ks => rw [writeMembers, commaSeparated, ih, writeMember]; simp

theorem isGap_of_isDigit {c : Char} (hc : c.isDigit = true) : isGap c = false := by
  have hspace : c ≠ ' ' := ne_of_isDigit hc rfl
  have htab : c ≠ '\t' := ne_of_isDigit hc rfl
  have hline : c ≠ '\n' := ne_of_isDigit hc rfl
  have hreturn : c ≠ '\r' := ne_of_isDigit hc rfl
  simp [isGap, hspace, htab, hline, hreturn]

/-- The text of a value starts with a character that neither is skipped nor
closes a container. -/
theorem exists_write_cons (j : Json) :
    ∃ c cs, write j = c :: cs ∧ isGap c = false ∧ c ≠ ']' ∧ c ≠ '}' := by
  have hdigits : ∀ n cs, ∃ c ds, Nat.toDigits 10 n ++ cs = c :: ds ∧ isGap c = false ∧
      c ≠ ']' ∧ c ≠ '}' := by
    intro n cs
    obtain ⟨c, ds, hds, hc⟩ := exists_toDigits_cons n
    exact ⟨c, ds ++ cs, by rw [hds, List.cons_append], isGap_of_isDigit hc,
      ne_of_isDigit hc rfl, ne_of_isDigit hc rfl⟩
  cases j with
  | null => exact ⟨'n', _, rfl, by decide⟩
  | bool b => cases b <;> exact ⟨_, _, rfl, by decide⟩
  | integer n =>
    rw [write, writeInt_eq]
    split
    · exact ⟨'-', _, rfl, by decide⟩
    · simpa using hdigits n.natAbs []
  | real x =>
    cases x with
    | decimal d =>
      obtain ⟨negative, mantissa, exponent⟩ := d
      cases negative with
      | true => exact ⟨'-', _, rfl, by decide⟩
      | false => simpa [write, writeNumeral] using hdigits mantissa _
    | infinite negative => cases negative <;> exact ⟨_, _, rfl, by decide⟩
    | nan => exact ⟨_, _, rfl, by decide⟩
  | string s => exact ⟨'"', _, rfl, by decide⟩
  | array js => exact ⟨'[', _, rfl, by decide⟩
  | object ms => exact ⟨'{', _, rfl, by decide⟩

theorem skip_write (j : Json) (rest : List Char) : skip (write j ++ rest) = write j ++ rest := by
  obtain ⟨c, cs, hcs, hgap, -⟩ := exists_write_cons j
  rw [hcs, List.cons_append, skip_of_head hgap]

theorem valueOver_string (inner : Reader Json) (s : String) (rest : List Char) :
    valueOver inner (writeString s ++ rest) = some (.string s, rest) := by
  simp [writeString, valueOver, quoted_escape]

theorem valueOver_array (inner : Reader Json) (cs : List Char) :
    valueOver inner ('[' :: cs) =
      (container inner ']' cs).map fun (js, rest) => (.array js, rest) := rfl

theorem valueOver_object (inner : Reader Json) (cs : List Char) :
    valueOver inner ('{' :: cs) =
      (container (member inner) '}' cs).map fun (ms, rest) => (.object ms, rest) := rfl

/-- A text that starts with a digit is no name and no container. -/
theorem valueOver_digit (inner : Reader Json) {c : Char} (cs : List Char) (hc : c.isDigit = true) :
    valueOver inner (c :: cs) = magnitude false (c :: cs) := by
  have hquote : c ≠ '"' := ne_of_isDigit hc rfl
  have hbracket : c ≠ '[' := ne_of_isDigit hc rfl
  have hbrace : c ≠ '{' := ne_of_isDigit hc rfl
  have hminus : c ≠ '-' := ne_of_isDigit hc rfl
  have hname : named (c :: cs) = none := by
    have hn : c ≠ 'n' := ne_of_isDigit hc rfl
    have ht : c ≠ 't' := ne_of_isDigit hc rfl
    have hf : c ≠ 'f' := ne_of_isDigit hc rfl
    have hN : c ≠ 'N' := ne_of_isDigit hc rfl
    have hI : c ≠ 'I' := ne_of_isDigit hc rfl
    simp [named, afterWord?, hn.symm, ht.symm, hf.symm, hN.symm, hI.symm, hminus.symm]
  rw [valueOver]
  · rw [hname, Option.none_or]
  all_goals simp [hquote, hbracket, hbrace, hminus]

theorem valueOver_minus (inner : Reader Json) {c : Char} (cs : List Char) (hc : c.isDigit = true) :
    valueOver inner ('-' :: c :: cs) = magnitude true (c :: cs) := by
  have hI : c ≠ 'I' := ne_of_isDigit hc rfl
  have hname : named ('-' :: c :: cs) = none := by
    simp [named, afterWord?, hI.symm]
  rw [valueOver]
  rw [hname, Option.none_or]

/-- A sign in front of digits is read apart from them. -/
theorem valueOver_signed (inner : Reader Json) (negative : Bool) (n : ℕ) (rest : List Char) :
    valueOver inner ((if negative then ['-'] else []) ++ Nat.toDigits 10 n ++ rest) =
      magnitude negative (Nat.toDigits 10 n ++ rest) := by
  obtain ⟨c, cs, hcs, hc⟩ := exists_toDigits_cons n
  cases negative with
  | true => simp [hcs, valueOver_minus inner _ hc]
  | false => simp [hcs, valueOver_digit inner _ hc]

theorem valueOver_writeInt (inner : Reader Json) (n : ℤ) (rest : List Char)
    (hrest : EndsNumber rest) :
    valueOver inner (writeInt n ++ rest) =
      if Readable (.integer n) then some (.integer n, rest) else none := by
  have hsigned := valueOver_signed inner (decide (n < 0)) n.natAbs rest
  rw [magnitude_toDigits _ _ _ hrest, signed_natAbs] at hsigned
  simpa [writeInt_eq, Readable, wholes] using hsigned

theorem valueOver_writeNumeral (inner : Reader Json) (x : Numeral) (rest : List Char)
    (hrest : EndsNumber rest) :
    valueOver inner (writeNumeral x ++ rest) =
      if Readable (.real x) then some (.real x, rest) else none := by
  cases x with
  | decimal d =>
    have hsigned := valueOver_signed inner d.negative d.mantissa
      ('e' :: (writeInt d.exponent ++ rest))
    rw [magnitude_decimal d rest hrest] at hsigned
    simpa [writeNumeral, Readable, wholes] using hsigned
  | infinite negative => cases negative <;> rfl
  | nan => rfl

theorem value_eq_valueOver (d : ℕ) : ∃ inner, value d = valueOver inner := by
  cases d with
  | zero => exact ⟨_, rfl⟩
  | succ d => exact ⟨_, rfl⟩

/-- What the reader makes of the text of a value in front of another text. -/
def ReadBack (j : Json) : Prop :=
  ∀ d rest, depth j ≤ d → EndsNumber rest →
    value d (write j ++ rest) = if Readable j then some (j, rest) else none

theorem readBack_array {js : List Json} (hjs : ∀ j ∈ js, ReadBack j) : ReadBack (.array js) := by
  intro d rest hdepth hrest
  have hitems : ∃ inner, value d = valueOver inner ∧
      ∀ j ∈ js, ReadsBack inner write ']' Readable j := by
    cases d with
    | zero =>
      refine ⟨_, rfl, fun j hj => ?_⟩
      have hlt : depth j < depth (.array js) := depth_lt_of_mem_items hj
      omega
    | succ d =>
      refine ⟨_, rfl, fun j hj => ?_⟩
      have hlt : depth j < depth (.array js) := depth_lt_of_mem_items hj
      obtain ⟨c, cs, hcs, hgap, hclose, -⟩ := exists_write_cons j
      exact ⟨⟨c, cs, hcs, hgap, hclose⟩, fun c cs hc =>
        hjs j hj d _ (by omega) (endsNumber_cons (hc.imp_right Or.inl))⟩
  obtain ⟨inner, hinner, hitem⟩ := hitems
  have hcontainer := ReadsBack.container_commaSeparated (by decide) (by decide) js hitem rest
  simp only [hinner, write, writeItems_eq, List.cons_append, List.append_assoc, List.nil_append,
    valueOver_array, hcontainer, readable_array]
  split_ifs <;> rfl

theorem readBack_object {ms : List (String × Json)} (hms : ∀ m ∈ ms, ReadBack m.2) :
    ReadBack (.object ms) := by
  intro d rest hdepth hrest
  have hmembers : ∃ inner, value d = valueOver inner ∧
      ∀ m ∈ ms, ReadsBack (member inner) writeMember '}' (fun m => Readable m.2) m := by
    cases d with
    | zero =>
      refine ⟨_, rfl, fun m hm => ?_⟩
      have hlt : depth m.2 < depth (.object ms) := depth_lt_of_mem_members hm
      omega
    | succ d =>
      refine ⟨_, rfl, fun m hm => ?_⟩
      have hlt : depth m.2 < depth (.object ms) := depth_lt_of_mem_members hm
      refine ⟨⟨'"', _, rfl, by decide, by decide⟩, fun c cs hc => ?_⟩
      have hvalue := hms m hm d (c :: cs) (by omega) (endsNumber_cons (hc.imp_right Or.inr))
      have hskip := skip_write m.2 (c :: cs)
      have hcolon : ∀ ds, skip (':' :: ds) = ':' :: ds := fun ds => skip_of_head (by decide)
      simp only [writeMember, writeString, List.cons_append, List.append_assoc, List.nil_append,
        member, quoted_escape, Option.bind_eq_bind, Option.bind_some, hcolon, hskip, hvalue]
      split_ifs <;> rfl
  obtain ⟨inner, hinner, hmember⟩ := hmembers
  have hcontainer := ReadsBack.container_commaSeparated (by decide) (by decide) ms hmember rest
  simp only [hinner, write, writeMembers_eq, List.cons_append, List.append_assoc, List.nil_append,
    valueOver_object, hcontainer, readable_object]
  split_ifs <;> rfl

mutual

/-- Every value that is readable is read back. -/
theorem readBack : ∀ j, ReadBack j
  | .null => fun d rest _ _ => by
    obtain ⟨inner, hinner⟩ := value_eq_valueOver d
    rw [hinner]
    rfl
  | .bool b => fun d rest _ _ => by
    obtain ⟨inner, hinner⟩ := value_eq_valueOver d
    rw [hinner]
    cases b <;> rfl
  | .integer n => fun d rest _ hrest => by
    obtain ⟨inner, hinner⟩ := value_eq_valueOver d
    rw [hinner, write, valueOver_writeInt inner n rest hrest]
  | .real x => fun d rest _ hrest => by
    obtain ⟨inner, hinner⟩ := value_eq_valueOver d
    rw [hinner, write, valueOver_writeNumeral inner x rest hrest]
  | .string s => fun d rest _ _ => by
    obtain ⟨inner, hinner⟩ := value_eq_valueOver d
    rw [hinner, write, valueOver_string]
    rfl
  | .array js => readBack_array (readBack_items js)
  | .object ms => readBack_object (readBack_members ms)

theorem readBack_items : ∀ js : List Json, ∀ j ∈ js, ReadBack j
  | [] => by simp
  | j :: js => List.forall_mem_cons.mpr ⟨readBack j, readBack_items js⟩

theorem readBack_members : ∀ ms : List (String × Json), ∀ m ∈ ms, ReadBack m.2
  | [] => by simp
  | (_, j) :: ms => List.forall_mem_cons.mpr ⟨readBack j, readBack_members ms⟩

end

/-- The text of a value is read back, unless a number in it is too long. -/
theorem parse?_write (j : Json) (hdepth : depth j ≤ maxDepth) :
    parse? (write j) = if Readable j then some j else none := by
  have hskip := skip_write j []
  have hvalue := readBack j maxDepth [] hdepth endsNumber_nil
  rw [List.append_nil] at hskip hvalue
  rw [parse?, hskip, hvalue]
  split_ifs <;> rfl

theorem fromUTF8?_toUTF8 (s : String) : String.fromUTF8? s.toUTF8 = some s := by
  have hvalid : s.toUTF8.IsValidUTF8 := s.isValidUTF8
  rw [String.fromUTF8?, dif_pos hvalid]
  rfl

theorem isEmpty_toUTF8 {s : String} (hs : s ≠ "") : s.toUTF8.isEmpty = false := by
  have hsize : s.toUTF8.size ≠ 0 := fun h => hs (String.utf8ByteSize_eq_zero_iff.mp h)
  simpa [ByteArray.isEmpty] using hsize

theorem parseBytes?_text (j : Json) (hdepth : depth j ≤ maxDepth) :
    parseBytes? j.text.toUTF8 = if Readable j then some j else none := by
  rw [parseBytes?, fromUTF8?_toUTF8, text, Option.bind_eq_bind, Option.bind_some,
    String.toList_ofList, parse?_write j hdepth]

end VersionedStore.Json
