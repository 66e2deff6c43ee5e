import VersionedStore.Proofs.Field.Record
import VersionedStore.Proofs.Field.Spelling
import VersionedStore.Proofs.Message.Language

/-!
What becomes of the versions that a body gives. A version that is written as an
integer or as a text keeps its value, however long it is. One that is written with
a fraction or an exponent is read as a number of the format binary64 first; it
keeps its value just if this format holds it, and is changed to another version
otherwise.
-/

namespace VersionedStore

open VersionedStore.Field

namespace Json

/-- The value of the member of an object with a given name; of several the last
counts. -/
def member? (name : String) : Json → Option Json
  | .object ms => (ms.reverse.find? fun m => m.1 == name).map (·.2)
  | _ => none

def itemsOf (name : String) (j : Json) : List Json :=
  match j.member? name with
  | some (.array js) => js
  | _ => []

def objectOf (name : String) (j : Json) : List Json :=
  match j.member? name with
  | some (.object ms) => [.object ms]
  | _ => []

/-- A literal that denotes a number: an integer, a number with a fraction or an
exponent, or a text that spells a number. -/
inductive IsNumber : Json → ℚ → Prop where
  | integer (n : ℤ) : IsNumber (.integer n) n
  | real (d : Decimal) : IsNumber (.real (.decimal d)) d.value
  | string {s : String} {d : Decimal} (h : Spells s.toList d) : IsNumber (.string s) d.value

end Json

namespace MessageType

def pairsGiven : MessageType → Json → List Json
  | .keyValue, j => [j]
  | .getObjectResponse, j => j.objectOf "value"
  | .putObjectRequest, j => j.itemsOf "transaction_items" ++ j.itemsOf "delete_items"
  | .listKeyVersionsResponse, j => j.itemsOf "key_versions"
  | _, _ => []

/-- The literals that a body gives as versions outside of key-value pairs. -/
def ownGiven : MessageType → Json → List (Option Json)
  | .deleteObjectRequest, j => [j.member? "version"]
  | .putObjectRequest, j | .listKeyVersionsResponse, j => [j.member? "global_version"]
  | _, _ => []

def versionsGiven (t : MessageType) (j : Json) : List (Option Json) :=
  (t.pairsGiven j).map (Json.member? "version") ++ t.ownGiven j

def pairs : (t : MessageType) → t.Body → List KeyValue
  | .keyValue, m => [m]
  | .getObjectResponse, m => m.value.toList
  | .putObjectRequest, m => m.transactionItems ++ m.deleteItems
  | .listKeyVersionsResponse, m => m.keyVersions
  | .getObjectRequest, _ | .putObjectResponse, _ | .deleteObjectRequest, _
  | .deleteObjectResponse, _ | .listKeyVersionsRequest, _ | .errorResponse, _ => []

def ownVersions : (t : MessageType) → t.Body → List (Option ℤ)
  | .deleteObjectRequest, m => [m.version]
  | .putObjectRequest, m => [m.globalVersion]
  | .listKeyVersionsResponse, m => [m.globalVersion]
  | .keyValue, _ | .getObjectRequest, _ | .getObjectResponse, _ | .putObjectResponse, _
  | .deleteObjectResponse, _ | .listKeyVersionsRequest, _ | .errorResponse, _ => []

def versions (t : MessageType) (m : t.Body) : List (Option ℤ) :=
  (t.pairs m).map KeyValue.version ++ t.ownVersions m

end MessageType

/-- What a version has to do with the literal that a body gives for it. -/
structure Kept (given : Option Json) (version : Option ℤ) : Prop where
  absent : given = none ∨ given = some .null ↔ version = none
  exact : ∀ j q, given = some j → j.IsNumber q →
    ∃ n : ℤ, version = some n ∧ ((n : ℚ) = q ↔ ∀ x, j = .real x → Binary64.Held q)
  small : ∀ j (k : ℤ), given = some j → j.IsNumber k → k.natAbs ≤ 2 ^ 53 → version = some k

namespace Field

theorem value?_of_toInt? {x : Binary64} {n : ℤ} (h : x.toInt? = some n) :
    x.value? = some (n : ℚ) := by
  cases x with
  | finite negative units fits =>
    obtain ⟨hwhole, h⟩ := Option.ite_none_right_eq_some.mp h
    obtain rfl := Option.some.inj h
    have hunits : (units : ℚ) = (units / Binary64.one : ℕ) * (Binary64.one : ℕ) := by
      exact_mod_cast (Nat.div_mul_cancel (Nat.dvd_of_mod_eq_zero hwhole)).symm
    have hone : (Binary64.one : ℚ) ≠ 0 := by exact_mod_cast Binary64.one_pos.ne'
    rw [Binary64.value?, Number.cast_signed, Number.cast_signed, hunits, ← mul_assoc,
      mul_div_cancel_right₀ _ hone]
  | _ => cases h

/-- An integer that is made of a real has its value. -/
theorem value?_of_integerOfReal {x : Binary64} {n : ℤ} (h : integerOfReal x = .ok n) :
    x.value? = some (n : ℚ) := by
  unfold integerOfReal at h
  split_ifs at h
  · exact absurd h fail_ne_ok
  · split at h
    · exact absurd h fail_ne_ok
    · next k hk =>
      split_ifs at h
      · obtain rfl := Except.ok.inj h
        exact value?_of_toInt? hk
      · exact absurd h fail_ne_ok

/-- An integer has the value of its literal, unless the literal was rounded on the way. -/
theorem eq_iff_of_integer {j : Json} {n : ℤ} {q : ℚ} (h : integer (Raw.ofJson j) = .ok n)
    (hq : j.IsNumber q) : (n : ℚ) = q ↔ ∀ x, j = .real x → Binary64.Held q := by
  cases hq with
  | integer k =>
    obtain rfl := Except.ok.inj h
    exact iff_of_true rfl nofun
  | real d =>
    have hvalue := value?_of_integerOfReal h
    constructor
    · intro heq x hx
      exact ⟨_, heq ▸ hvalue⟩
    · intro hheld
      have hexact := Binary64.value?_ofDecimal (hheld _ rfl)
      exact Option.some.inj (hvalue.symm.trans hexact)
  | string hspells => exact iff_of_true (value_of_integerOfText hspells h) nofun

theorem kept_of_integer {j : Json} {n : ℤ} (h : integer (Raw.ofJson j) = .ok n) :
    Kept (some j) (some n) := by
  have hnull : j ≠ .null := fun hj => by
    subst hj
    exact absurd h fail_ne_ok
  refine ⟨by simp [hnull], ?_, ?_⟩
  · intro k q hk hq
    obtain rfl := Option.some.inj hk
    exact ⟨n, rfl, eq_iff_of_integer h hq⟩
  · intro l k hl hk hsmall
    obtain rfl := Option.some.inj hl
    have heq := (eq_iff_of_integer h hk).mpr fun _ _ => Binary64.held_of_natAbs_le hsmall
    exact congrArg some (Int.cast_injective heq)

theorem kept_none : Kept none none := ⟨by simp, nofun, nofun⟩

theorem kept_null : Kept (some .null) none := by
  refine ⟨by simp, ?_, ?_⟩
  · intro j q hj hq
    obtain rfl := Option.some.inj hj
    cases hq
  · intro j k hj hk
    obtain rfl := Option.some.inj hj
    cases hk

theorem lookup?_ofJsonMembers (name : String) (ms : List (String × Json)) :
    lookup? name (Raw.ofJsonMembers ms) = ((Json.object ms).member? name).map Raw.ofJson := by
  rw [ofJsonMembers_eq, lookup?, ← List.map_reverse, List.find?_map, Json.member?, Option.map_map,
    Option.map_map]
  rfl

theorem eq_null_of_ofJson {j : Json} (h : Raw.ofJson j = .none) : j = .null := by
  cases j with
  | null => rfl
  | _ => cases h

section WithDefault

variable {α : Type} {name : String} {ms : List (String × Json)}

/-- A field is read from the member that counts, or stands at its default. -/
theorem member?_of_withDefault {default x : α} {read : Raw → Checked α}
    (h : withDefault (Raw.ofJsonMembers ms) name default read = .ok x) :
    ((Json.object ms).member? name = none ∧ default = x) ∨
      ∃ j, (Json.object ms).member? name = some j ∧ read (Raw.ofJson j) = .ok x := by
  rw [withDefault_eq_ok, lookup?_ofJsonMembers] at h
  rcases h with ⟨hnone, hx⟩ | ⟨r, hr, hread⟩
  · exact .inl ⟨Option.map_eq_none_iff.mp hnone, hx⟩
  · obtain ⟨j, hj, rfl⟩ := Option.map_eq_some_iff.mp hr
    exact .inr ⟨j, hj, hread⟩

/-- A version has to do with the last member of its name, or with none. -/
theorem kept_of_withDefault {version : Option ℤ}
    (h : withDefault (Raw.ofJsonMembers ms) name none (optional integer) = .ok version) :
    Kept ((Json.object ms).member? name) version := by
  rcases member?_of_withDefault h with ⟨hnone, rfl⟩ | ⟨j, hj, hread⟩
  · rw [hnone]
    exact kept_none
  · rw [hj]
    cases version with
    | some n => exact kept_of_integer (of_optional_eq_some hread)
    | none =>
      rw [eq_null_of_ofJson (eq_none_of_optional hread)]
      exact kept_null

abbrev PairsRead (js : List Json) (kvs : List KeyValue) : Prop :=
  List.Forall₂ (fun j kv => KeyValue.read .wire (Raw.ofJson j) = .ok kv) js kvs

theorem pairsRead_of_withDefault {kvs : List KeyValue}
    (h : withDefault (Raw.ofJsonMembers ms) name [] (list (KeyValue.read .wire)) = .ok kvs) :
    PairsRead ((Json.object ms).itemsOf name) kvs := by
  unfold Json.itemsOf
  rcases member?_of_withDefault h with ⟨hnone, rfl⟩ | ⟨j, hj, hread⟩
  · rw [hnone]
    exact .nil
  · obtain ⟨rs, hrs, hreads⟩ := list_eq_ok.mp hread
    rw [hj]
    cases j with
    | array js =>
      rw [Raw.ofJson, ofJsonItems_eq] at hrs
      obtain rfl := Raw.list.inj hrs
      exact List.forall₂_map_left_iff.mp hreads
    | _ => cases hrs

theorem pairsRead_of_optional {value : Option KeyValue}
    (h : withDefault (Raw.ofJsonMembers ms) name none (optional (KeyValue.read .wire)) =
      .ok value) :
    PairsRead ((Json.object ms).objectOf name) value.toList := by
  unfold Json.objectOf
  rcases member?_of_withDefault h with ⟨hnone, rfl⟩ | ⟨j, hj, hread⟩
  · rw [hnone]
    exact .nil
  · rw [hj]
    cases value with
    | none =>
      rw [eq_null_of_ofJson (eq_none_of_optional hread)]
      exact .nil
    | some kv =>
      have hkv := of_optional_eq_some hread
      obtain ⟨_, hrs, -⟩ := record_eq_ok.mp hkv
      cases j with
      | object => exact .cons hkv .nil
      | _ => cases hrs

end WithDefault

end Field

/-- The version of a pair is kept as far as its literal allows. -/
theorem KeyValue.kept_version {j : Json} {kv : KeyValue}
    (h : KeyValue.read .wire (Raw.ofJson j) = .ok kv) : Kept (j.member? "version") kv.version := by
  obtain ⟨rs, hrs, hread⟩ := record_eq_ok.mp h
  cases j with
  | object ms =>
    obtain rfl := Raw.record.inj hrs
    simp only [Checked.also_eq_ok] at hread
    obtain ⟨_, _, ⟨_, _, ⟨_, _, ⟨⟩, -, rfl⟩, hversion, rfl⟩, -, rfl⟩ := hread
    exact kept_of_withDefault hversion
  | _ => cases hrs

namespace MessageType

/-- The pairs of a message are read, in order, of those that its body gives. -/
theorem pairsRead_of_readMembers {t : MessageType} {ms : List (String × Json)} {m : t.Body}
    (h : readMembers .wire (Raw.ofJsonMembers ms) t = .ok m) :
    PairsRead (t.pairsGiven (.object ms)) (t.pairs m) := by
  cases t with
  | keyValue => exact .cons h .nil
  | getObjectResponse =>
    simp only [readMembers, Checked.also_eq_ok] at h
    obtain ⟨_, value, ⟨⟩, hvalue, rfl⟩ := h
    exact pairsRead_of_optional hvalue
  | putObjectRequest =>
    simp only [readMembers, Checked.also_eq_ok] at h
    obtain ⟨_, _, ⟨_, _, ⟨_, _, ⟨_, _, ⟨⟩, -, rfl⟩, hitems, rfl⟩, hdeletes, rfl⟩, -, rfl⟩ := h
    exact List.rel_append (pairsRead_of_withDefault hitems) (pairsRead_of_withDefault hdeletes)
  | listKeyVersionsResponse =>
    simp only [readMembers, Checked.also_eq_ok] at h
    obtain ⟨_, _, ⟨_, _, ⟨_, _, ⟨⟩, hkvs, rfl⟩, -, rfl⟩, -, rfl⟩ := h
    exact pairsRead_of_withDefault hkvs
  | _ => exact .nil

theorem kept_own_of_readMembers {t : MessageType} {ms : List (String × Json)} {m : t.Body}
    (h : readMembers .wire (Raw.ofJsonMembers ms) t = .ok m) :
    List.Forall₂ Kept (t.ownGiven (.object ms)) (t.ownVersions m) := by
  cases t with
  | putObjectRequest =>
    simp only [readMembers, Checked.also_eq_ok] at h
    obtain ⟨_, _, ⟨_, _, ⟨_, _, ⟨_, _, ⟨⟩, -, rfl⟩, -, rfl⟩, -, rfl⟩, hversion, rfl⟩ := h
    exact .cons (kept_of_withDefault hversion) .nil
  | deleteObjectRequest =>
    simp only [readMembers, Checked.also_eq_ok] at h
    obtain ⟨_, _, ⟨_, _, ⟨_, _, ⟨⟩, -, rfl⟩, -, rfl⟩, hversion, rfl⟩ := h
    exact .cons (kept_of_withDefault hversion) .nil
  | listKeyVersionsResponse =>
    simp only [readMembers, Checked.also_eq_ok] at h
    obtain ⟨_, _, ⟨_, _, ⟨_, _, ⟨⟩, -, rfl⟩, -, rfl⟩, hversion, rfl⟩ := h
    exact .cons (kept_of_withDefault hversion) .nil
  | _ => exact .nil

/-- Each version in a message that was decoded has the value of the literal that the
body gives for it, unless this is a number with a fraction or an exponent that the
format binary64 does not hold. No version of 53 bits or less is changed, and no
version comes from nowhere. -/
theorem versions_kept_of_decode {t : MessageType} {body : ByteArray} {m : t.Body}
    (hbody : body.isEmpty = false) (h : t.decode body = .ok m) :
    ∃ j, Json.Grammar.Denotes body j ∧ List.Forall₂ Kept (t.versionsGiven j) (t.versions m) := by
  obtain ⟨j, hj, hread⟩ := exists_denotes_of_decode hbody h
  refine ⟨j, hj, ?_⟩
  obtain ⟨rs, hrs, hmembers⟩ := record_eq_ok.mp hread
  cases j with
  | object ms =>
    obtain rfl := Raw.record.inj hrs
    have hpairs : List.Forall₂ Kept ((t.pairsGiven (.object ms)).map (Json.member? "version"))
        ((t.pairs m).map KeyValue.version) :=
      List.forall₂_map_left_iff.mpr (List.forall₂_map_right_iff.mpr
        ((pairsRead_of_readMembers hmembers).imp fun _ _ => KeyValue.kept_version))
    exact List.rel_append hpairs (kept_own_of_readMembers hmembers)
  | _ => cases hrs

set_option maxRecDepth 2000 in
/-- A page with a version beyond 53 bits as a text, and with one that is written with
an exponent. -/
theorem versions_kept_of_page :
    let body := "\x7b\"key_versions\":[\x7b\"key\":\"\",\"version\":" ++
      "\"9007199254740993.0\"\x7d],\"global_version\":12e1\x7d"
    let page : ListKeyVersionsResponse :=
      ⟨[⟨"", some 9007199254740993, .empty⟩], none, some 120⟩
    decode .listKeyVersionsResponse body.toUTF8 = .ok page ∧
      List.Forall₂ Kept
        [some (.string "9007199254740993.0"), some (.real (.decimal ⟨false, 12, 1⟩))]
        [some 9007199254740993, some 120] := by
  intro body page
  have hdenotes : Json.Grammar.Denotes body.toUTF8 (.object
      [("key_versions", .array [.object [("key", .string ""),
        ("version", .string "9007199254740993.0")]]),
      ("global_version", .real (.decimal ⟨false, 12, 1⟩))]) :=
    Json.Grammar.denotes_toUTF8.mpr (by cbv)
  have hdecode : decode .listKeyVersionsResponse body.toUTF8 = .ok page := by
    rw [decode_of_denotes _ hdenotes]
    decide +kernel
  obtain ⟨j, hj, hkept⟩ := versions_kept_of_decode (not_isEmpty_of_denotes hdenotes) hdecode
  obtain rfl := hj.unique hdenotes
  exact ⟨hdecode, hkept⟩

/-- A version just beyond 53 bits that is written with a fraction becomes its
neighbour, and a version that is no integer becomes one. -/
theorem versions_changed :
    let body := "\x7b\"key\":\"k\",\"version\":9007199254740993.0\x7d".toUTF8
    let body' := "\x7b\"key\":\"k\",\"version\":0.99999999999999999999\x7d".toUTF8
    let given : Json := .real (.decimal ⟨false, 90071992547409930, -1⟩)
    let given' : Json := .real (.decimal ⟨false, 99999999999999999999, -20⟩)
    (Json.Grammar.Denotes body (.object [("key", .string "k"), ("version", given)]) ∧
        given.IsNumber 9007199254740993 ∧
        decode .keyValue body = .ok ⟨"k", some 9007199254740992, .empty⟩) ∧
      Json.Grammar.Denotes body' (.object [("key", .string "k"), ("version", given')]) ∧
        given'.IsNumber (1 - 1 / 10 ^ 20) ∧
        decode .keyValue body' = .ok ⟨"k", some 1, .empty⟩ := by
  intro body body' given given'
  have hbody : Json.Grammar.Denotes body (.object [("key", .string "k"), ("version", given)]) :=
    Json.Grammar.denotes_toUTF8.mpr (by cbv)
  have hbody' : Json.Grammar.Denotes body' (.object [("key", .string "k"), ("version", given')]) :=
    Json.Grammar.denotes_toUTF8.mpr (by cbv)
  have hvalue : Decimal.value ⟨false, 90071992547409930, -1⟩ = 9007199254740993 := by
    norm_num [Decimal.value, Number.signed]
  have hvalue' : Decimal.value ⟨false, 99999999999999999999, -20⟩ = 1 - 1 / 10 ^ 20 := by
    norm_num [Decimal.value, Number.signed]
  have hdecode : decode .keyValue body = .ok ⟨"k", some 9007199254740992, .empty⟩ := by
    rw [decode_of_denotes _ hbody]
    decide +kernel
  have hdecode' : decode .keyValue body' = .ok ⟨"k", some 1, .empty⟩ := by
    rw [decode_of_denotes _ hbody']
    decide +kernel
  exact ⟨⟨hbody, hvalue ▸ .real _, hdecode⟩, hbody', hvalue' ▸ .real _, hdecode'⟩

end MessageType

end VersionedStore
