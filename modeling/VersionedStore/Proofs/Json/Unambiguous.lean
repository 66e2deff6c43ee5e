import VersionedStore.Proofs.Json.RoundTrip

/-!
The text of a JSON value determines the value, and it tells by itself where it
ends. The reader is of no help here, because it refuses long numbers: the text
is compared with the text of another value instead. The first characters tell
what kind of value it is, quotes and brackets close what they open, and a number
ends where no digit follows.
-/

namespace VersionedStore.Json

open Number

/-- What the text of a value starts with; all numbers that have digits look
alike. -/
inductive Lead where
  | null
  | bool (b : Bool)
  | nan
  | infinite (negative : Bool)
  | digits
  | string
  | array
  | object

def lead : Json → Lead
  | .null => .null
  | .bool b => .bool b
  | .integer _ => .digits
  | .real (.decimal _) => .digits
  | .real (.infinite negative) => .infinite negative
  | .real .nan => .nan
  | .string _ => .string
  | .array _ => .array
  | .object _ => .object

def leadOf : List Char → Lead
  | 'n' :: _ => .null
  | 't' :: _ => .bool true
  | 'f' :: _ => .bool false
  | 'N' :: _ => .nan
  | 'I' :: _ => .infinite false
  | '-' :: 'I' :: _ => .infinite true
  | '"' :: _ => .string
  | '[' :: _ => .array
  | '{' :: _ => .object
  | _ => .digits

theorem leadOf_digit {c : Char} (cs : List Char) (hc : c.isDigit = true) :
    leadOf (c :: cs) = .digits := by
  rw [leadOf]
  all_goals
    intro tail heq
    obtain ⟨rfl, -⟩ := List.cons.inj heq
    exact absurd hc (by decide)

theorem leadOf_minus {c : Char} (cs : List Char) (hc : c.isDigit = true) :
    leadOf ('-' :: c :: cs) = .digits := by
  have hI : c ≠ 'I' := ne_of_isDigit hc rfl
  rw [leadOf]
  all_goals simp [hI]

def signedDigits (negative : Bool) (n : ℕ) : List Char :=
  (if negative then ['-'] else []) ++ Nat.toDigits 10 n

theorem leadOf_signedDigits (negative : Bool) (n : ℕ) (rest : List Char) :
    leadOf (signedDigits negative n ++ rest) = .digits := by
  obtain ⟨c, cs, hcs, hc⟩ := exists_toDigits_cons n
  cases negative with
  | true => simpa [signedDigits, hcs] using leadOf_minus (cs ++ rest) hc
  | false => simpa [signedDigits, hcs] using leadOf_digit (cs ++ rest) hc

theorem sign_signedDigits (negative : Bool) (n : ℕ) (rest : List Char) :
    sign (signedDigits negative n ++ rest) = (negative, Nat.toDigits 10 n ++ rest) := by
  obtain ⟨c, cs, hcs, hc⟩ := exists_toDigits_cons n
  have hplus : c ≠ '+' := ne_of_isDigit hc rfl
  have hminus : c ≠ '-' := ne_of_isDigit hc rfl
  cases negative with
  | true => simp [signedDigits, sign]
  | false => simp [signedDigits, hcs, sign, hplus, hminus]

theorem writeInt_eq_signedDigits (n : ℤ) :
    writeInt n = signedDigits (decide (n < 0)) n.natAbs := by
  rw [writeInt_eq, signedDigits]
  simp only [decide_eq_true_eq]

theorem write_decimal (d : Decimal) :
    write (.real (.decimal d)) =
      signedDigits d.negative d.mantissa ++ 'e' :: writeInt d.exponent := by
  rw [write, writeNumeral, signedDigits]

theorem leadOf_write (j : Json) (rest : List Char) : leadOf (write j ++ rest) = lead j := by
  cases j with
  | null => rfl
  | bool b => cases b <;> rfl
  | integer n =>
    rw [write, writeInt_eq_signedDigits]
    exact leadOf_signedDigits _ _ rest
  | real x =>
    cases x with
    | decimal d =>
      rw [write_decimal, List.append_assoc]
      exact leadOf_signedDigits _ _ _
    | infinite negative => cases negative <;> rfl
    | nan => rfl
  | string s => rfl
  | array js => rfl
  | object ms => rfl

/-- Digits are told apart from what follows them. -/
theorem signedDigits_append_inj {b c : Bool} {m n : ℕ} {r s : List Char}
    (hr : ∀ x ∈ r.head?, x.isDigit = false) (hs : ∀ x ∈ s.head?, x.isDigit = false)
    (h : signedDigits b m ++ r = signedDigits c n ++ s) : b = c ∧ m = n ∧ r = s := by
  have hsign := congrArg sign h
  rw [sign_signedDigits, sign_signedDigits] at hsign
  obtain ⟨rfl, hdigits⟩ := Prod.mk.inj hsign
  have hrow := congrArg digitRow hdigits
  rw [digitRow_append (toDigits_all_isDigit m) hr, digitRow_append (toDigits_all_isDigit n) hs]
    at hrow
  obtain ⟨hvalues, hrest⟩ := Prod.mk.inj hrow
  refine ⟨rfl, ?_, hrest⟩
  rw [← ofDigits_toDigits m, hvalues, ofDigits_toDigits]

theorem writeInt_append_inj {m n : ℤ} {r s : List Char} (hr : EndsNumber r) (hs : EndsNumber s)
    (h : writeInt m ++ r = writeInt n ++ s) : m = n ∧ r = s := by
  rw [writeInt_eq_signedDigits, writeInt_eq_signedDigits] at h
  obtain ⟨hsign, habs, hrest⟩ :=
    signedDigits_append_inj (fun c hc => (hr c hc).1) (fun c hc => (hs c hc).1) h
  refine ⟨?_, hrest⟩
  rw [← signed_natAbs m, hsign, habs, signed_natAbs]

/-- A string ends at the quote that closes it, which no character inside is
written as. -/
theorem writeString_append_inj {a b : String} {r s : List Char}
    (h : writeString a ++ r = writeString b ++ s) : a = b ∧ r = s := by
  simp only [writeString, List.cons_append, List.append_assoc, List.nil_append] at h
  have hquoted := congrArg quoted (List.cons.inj h).2
  rw [quoted_escape, quoted_escape] at hquoted
  exact Prod.mk.inj (Option.some.inj hquoted)

/-- The text of a value in front of a text that does not continue it tells the
value and where it ends. -/
def Determined (j : Json) : Prop :=
  ∀ k r s, EndsNumber r → EndsNumber s → write j ++ r = write k ++ s → j = k ∧ r = s

section Containers

variable {α : Type} {write : α → List Char} {close : Char}

def ItemDetermined (write : α → List Char) (close : Char) (x : α) : Prop :=
  ∀ y c r d s, c = ',' ∨ c = close → d = ',' ∨ d = close →
    write x ++ c :: r = write y ++ d :: s → x = y ∧ c :: r = d :: s

theorem close_ne_commaSeparated (hhead : ∀ x, ∃ c cs, write x = c :: cs ∧ c ≠ close) (x : α)
    (xs : List α) (r s : List Char) : commaSeparated write (x :: xs) ++ r ≠ close :: s := by
  obtain ⟨c, cs, hcs, hc⟩ := hhead x
  intro h
  cases xs with
  | nil => simp [commaSeparated, hcs, hc] at h
  | cons y ys => simp [commaSeparated, hcs, hc] at h

/-- Items with commas between them are told apart, and so is their end. -/
theorem commaSeparated_append_inj (hcomma : close ≠ ',')
    (hhead : ∀ x, ∃ c cs, write x = c :: cs ∧ c ≠ close) {xs : List α}
    (hxs : ∀ x ∈ xs, ItemDetermined write close x) {ys : List α} {r s : List Char}
    (h : commaSeparated write xs ++ close :: r = commaSeparated write ys ++ close :: s) :
    xs = ys ∧ r = s := by
  induction xs generalizing ys with
  | nil =>
    cases ys with
    | nil => exact ⟨rfl, (List.cons.inj h).2⟩
    | cons y ys => exact absurd h.symm (close_ne_commaSeparated hhead y ys _ r)
  | cons x xs ih =>
    obtain ⟨hx, hxs'⟩ := List.forall_mem_cons.mp hxs
    cases ys with
    | nil => exact absurd h (close_ne_commaSeparated hhead x xs _ s)
    | cons y ys =>
      -- what follows the first items tells whether there are more of them
      cases xs with
      | nil =>
        cases ys with
        | nil =>
          obtain ⟨rfl, hrest⟩ := hx y close r close s (.inr rfl) (.inr rfl) h
          exact ⟨rfl, (List.cons.inj hrest).2⟩
        | cons y' ys =>
          simp only [commaSeparated, List.append_assoc, List.cons_append] at h
          obtain ⟨-, hrest⟩ := hx y close r ',' _ (.inr rfl) (.inl rfl) h
          exact absurd (List.cons.inj hrest).1 hcomma
      | cons x' xs =>
        cases ys with
        | nil =>
          simp only [commaSeparated, List.append_assoc, List.cons_append] at h
          obtain ⟨-, hrest⟩ := hx y ',' _ close s (.inl rfl) (.inr rfl) h
          exact absurd (List.cons.inj hrest).1.symm hcomma
        | cons y' ys =>
          simp only [commaSeparated, List.append_assoc, List.cons_append] at h
          obtain ⟨rfl, hrest⟩ := hx y ',' _ ',' _ (.inl rfl) (.inl rfl) h
          obtain ⟨htail, hrs⟩ := ih hxs' (List.cons.inj hrest).2
          exact ⟨by rw [htail], hrs⟩

end Containers

theorem determined_integer (n : ℤ) : Determined (.integer n) := by
  intro k r s hr hs h
  have hlead := congrArg leadOf h
  rw [leadOf_write, leadOf_write] at hlead
  match k with
  | .integer m =>
    obtain ⟨rfl, hrest⟩ := writeInt_append_inj hr hs h
    exact ⟨rfl, hrest⟩
  | .real (.decimal d) =>
    -- the exponent of a decimal stands where an integer has ended
    rw [write, writeInt_eq_signedDigits, write_decimal, List.append_assoc] at h
    obtain ⟨-, -, rfl⟩ := signedDigits_append_inj (fun c hc => (hr c hc).1) (by simp) h
    exact absurd rfl (hr 'e' rfl).2.2.1

theorem determined_decimal (d : Decimal) : Determined (.real (.decimal d)) := by
  intro k r s hr hs h
  have hlead := congrArg leadOf h
  rw [leadOf_write, leadOf_write] at hlead
  match k with
  | .integer m =>
    obtain ⟨hk, hrest⟩ := determined_integer m _ s r hs hr h.symm
    exact ⟨hk.symm, hrest.symm⟩
  | .real (.decimal d') =>
    rw [write_decimal, write_decimal, List.append_assoc, List.append_assoc] at h
    obtain ⟨hsign, hmantissa, hrest⟩ := signedDigits_append_inj (by simp) (by simp) h
    obtain ⟨hexponent, hrs⟩ := writeInt_append_inj hr hs (List.cons.inj hrest).2
    obtain ⟨negative, mantissa, exponent⟩ := d
    obtain ⟨negative', mantissa', exponent'⟩ := d'
    subst hsign hmantissa hexponent
    exact ⟨rfl, hrs⟩

/-- A word is written for one value only. -/
theorem determined_word {j : Json} (hword : ∀ k, lead j = lead k → j = k) : Determined j := by
  intro k r s _ _ h
  have hlead := congrArg leadOf h
  rw [leadOf_write, leadOf_write] at hlead
  obtain rfl := hword k hlead
  exact ⟨rfl, List.append_cancel_left h⟩

theorem determined_string (a : String) : Determined (.string a) := by
  intro k r s _ _ h
  have hlead := congrArg leadOf h
  rw [leadOf_write, leadOf_write] at hlead
  match k with
  | .string b =>
    obtain ⟨rfl, hrest⟩ := writeString_append_inj h
    exact ⟨rfl, hrest⟩

/-- An array is determined if its elements are. -/
theorem determined_array {js : List Json} (hjs : ∀ j ∈ js, Determined j) :
    Determined (.array js) := by
  intro k r s _ _ h
  have hlead := congrArg leadOf h
  rw [leadOf_write, leadOf_write] at hlead
  match k with
  | .array ks =>
    have hhead : ∀ j, ∃ c cs, write j = c :: cs ∧ c ≠ ']' := by
      intro j
      obtain ⟨c, cs, hcs, -, hc, -⟩ := exists_write_cons j
      exact ⟨c, cs, hcs, hc⟩
    have hitem : ∀ j ∈ js, ItemDetermined write ']' j := fun j hj k c r d s hc hd =>
      hjs j hj k _ _ (endsNumber_cons (hc.imp_right .inl)) (endsNumber_cons (hd.imp_right .inl))
    simp only [write, writeItems_eq, List.cons_append, List.append_assoc, List.nil_append] at h
    obtain ⟨rfl, hrest⟩ :=
      commaSeparated_append_inj (by decide) hhead hitem (List.cons.inj h).2
    exact ⟨rfl, hrest⟩

theorem determined_object {ms : List (String × Json)} (hms : ∀ m ∈ ms, Determined m.2) :
    Determined (.object ms) := by
  intro k r s _ _ h
  have hlead := congrArg leadOf h
  rw [leadOf_write, leadOf_write] at hlead
  match k with
  | .object ns =>
    have hhead : ∀ m, ∃ c cs, writeMember m = c :: cs ∧ c ≠ '}' := fun m => ⟨'"', _, rfl, by decide⟩
    have hmember : ∀ m ∈ ms, ItemDetermined writeMember '}' m := by
      intro m hm n c r d s hc hd h
      simp only [writeMember, List.append_assoc, List.cons_append] at h
      obtain ⟨hname, hrest⟩ := writeString_append_inj h
      obtain ⟨hvalue, hrest⟩ := hms m hm n.2 _ _ (endsNumber_cons (hc.imp_right .inr))
        (endsNumber_cons (hd.imp_right .inr)) (List.cons.inj hrest).2
      exact ⟨Prod.ext hname hvalue, hrest⟩
    simp only [write, writeMembers_eq, List.cons_append, List.append_assoc, List.nil_append] at h
    obtain ⟨rfl, hrest⟩ :=
      commaSeparated_append_inj (by decide) hhead hmember (List.cons.inj h).2
    exact ⟨rfl, hrest⟩

mutual

/-- The text of any value tells the value. -/
theorem determined : ∀ j, Determined j
  | .null => determined_word fun | .null, _ => rfl
  | .bool _ => determined_word fun | .bool _, hlead => by rw [Lead.bool.inj hlead]
  | .integer n => determined_integer n
  | .real (.decimal d) => determined_decimal d
  | .real (.infinite _) =>
    determined_word fun | .real (.infinite _), hlead => by rw [Lead.infinite.inj hlead]
  | .real .nan => determined_word fun | .real .nan, _ => rfl
  | .string s => determined_string s
  | .array js => determined_array (determined_items js)
  | .object ms => determined_object (determined_members ms)

theorem determined_items : ∀ js : List Json, ∀ j ∈ js, Determined j
  | [] => by simp
  | j :: js => List.forall_mem_cons.mpr ⟨determined j, determined_items js⟩

theorem determined_members : ∀ ms : List (String × Json), ∀ m ∈ ms, Determined m.2
  | [] => by simp
  | (_, j) :: ms => List.forall_mem_cons.mpr ⟨determined j, determined_members ms⟩

end

/-- No text is written for two values. -/
theorem write_injective : Function.Injective write := by
  intro j k h
  exact (determined j k [] [] endsNumber_nil endsNumber_nil (by rw [h])).1

/-- Different values have different texts. -/
theorem text_injective : Function.Injective text := fun _ _ h =>
  write_injective (String.ofList_injective h)

theorem toUTF8_injective : Function.Injective String.toUTF8 := by
  intro s s' h
  have hread := congrArg String.fromUTF8? h
  rw [fromUTF8?_toUTF8, fromUTF8?_toUTF8] at hread
  exact Option.some.inj hread

end VersionedStore.Json
