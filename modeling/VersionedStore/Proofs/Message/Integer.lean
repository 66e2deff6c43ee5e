import VersionedStore.Proofs.Field.IntegerText
import VersionedStore.Proofs.Message.Elements

/-!
What becomes of the integers that a body gives as texts. A text that is written as an
integer is read as this integer, wherever in a message it stands, and its bound is
looked at only then; of any other text one problem is reported at its place, and the
message is not built.
-/

namespace VersionedStore

open VersionedStore.Field

namespace MessageType

open Json.Grammar

/-- A JSON value gives a text for an integer at a place of a message. The integer may
have to be above a bound. -/
inductive GivesInteger : MessageType → Json → List Step → Option ℤ → String → Prop where
  | version {t : MessageType} (ht : t = .keyValue ∨ t = .deleteObjectRequest) {j : Json}
    {s : String} (hs : j.member? "version" = some (.string s)) :
    GivesInteger t j [.name "version"] none s
  | globalVersion {t : MessageType} (ht : t = .putObjectRequest ∨ t = .listKeyVersionsResponse)
    {j : Json} {s : String} (hs : j.member? "global_version" = some (.string s)) :
    GivesInteger t j [.name "global_version"] none s
  | pageSize {j : Json} {s : String} (hs : j.member? "page_size" = some (.string s)) :
    GivesInteger .listKeyVersionsRequest j [.name "page_size"] (some 0) s
  | value {j k : Json} {s : String} (hk : j.member? "value" = some k)
    (hs : k.member? "version" = some (.string s)) :
    GivesInteger .getObjectResponse j [.name "value", .name "version"] none s
  | item {t : MessageType} {name : String} (hname : name ∈ t.pairListNames) {j k : Json}
    {items : List Json} {i : ℕ} {s : String} (hitems : j.member? name = some (.array items))
    (hk : items[i]? = some k) (hs : k.member? "version" = some (.string s)) :
    GivesInteger t j [.name name, .index i, .name "version"] none s

inductive HasInteger : (t : MessageType) → t.Body → List Step → ℤ → Prop where
  | version {kv : KeyValue} {n : ℤ} (h : kv.version = some n) :
    HasInteger .keyValue kv [.name "version"] n
  | deleted {m : DeleteObjectRequest} {n : ℤ} (h : m.version = some n) :
    HasInteger .deleteObjectRequest m [.name "version"] n
  | put {m : PutObjectRequest} {n : ℤ} (h : m.globalVersion = some n) :
    HasInteger .putObjectRequest m [.name "global_version"] n
  | listed {m : ListKeyVersionsResponse} {n : ℤ} (h : m.globalVersion = some n) :
    HasInteger .listKeyVersionsResponse m [.name "global_version"] n
  | pageSize {m : ListKeyVersionsRequest} {n : ℤ} (h : m.pageSize = some n) :
    HasInteger .listKeyVersionsRequest m [.name "page_size"] n
  | value {kv : KeyValue} {n : ℤ} (h : kv.version = some n) :
    HasInteger .getObjectResponse ⟨some kv⟩ [.name "value", .name "version"] n
  | item {t : MessageType} {m : t.Body} {name : String} {kvs : List KeyValue} {i : ℕ}
    {kv : KeyValue} {n : ℤ} (hname : (name, kvs) ∈ t.pairLists m) (hkv : kvs[i]? = some kv)
    (h : kv.version = some n) :
    HasInteger t m [.name name, .index i, .name "version"] n

/-- A body is refused, and at a place for one problem only, with the given name. -/
def RefusedAt (t : MessageType) (body : ByteArray) (place : List Step) (code : String) : Prop :=
  ∃ e p, t.decode body = .error e ∧ problemsAt place e.issues = [p] ∧ p.code = code

/-- What becomes of a text for an integer at a place of a body. -/
structure TakesInteger (t : MessageType) (body : ByteArray) (place : List Step)
    (bound : Option ℤ) (s : String) : Prop where
  read : ∀ n, Written s.toList n → (∀ b, bound = some b → b < n) →
    (∀ e, t.decode body = .error e → problemsAt place e.issues = []) ∧
      ∀ m, t.decode body = .ok m → t.HasInteger m place n
  notAbove : ∀ n b, Written s.toList n → bound = some b → n ≤ b →
    t.RefusedAt body place "greater_than"
  tooLong : StartsLong s.toList → t.RefusedAt body place "int_parsing_size"
  other : (¬∃ n, Written s.toList n) → ¬StartsLong s.toList →
    t.RefusedAt body place "int_parsing"
  usual : ∀ n, SpellsInteger s.toList n → Written s.toList n
  decimal : ∀ n : ℤ, (Nat.toDigits 10 n.natAbs).length ≤ 4300 → s = toString n →
    Written s.toList n

variable {t : MessageType} {ms : List (String × Json)} {name : String} {kind : FieldKind}
  {j k : Json} {place : List Step}

section Reading

variable {bound : Option ℤ} {s : String} {body : ByteArray}

def boundedInteger (bound : Option ℤ) (s : String) : Checked ℤ :=
  match bound with
  | none => integer (.text s)
  | some b => integerAbove b (.text s)

/-- Of the place of an integer that may be left out, its text alone decides. -/
theorem problemsAt_integer_field (hfield : (name, .optional .integer) ∈ t.fieldKinds)
    (hs : j.member? name = some (.string s)) :
    problemsAt [.name name] (issues (t.ofJson j)) = problemsAt [] (issues (integer (.text s))) := by
  rw [problemsAt_field hfield hs, problemsAt_check_optional (by simp [Raw.ofJson]),
    FieldKind.check, issues_outcome, Raw.ofJson]

theorem problemsAt_version_of_pair (hs : k.member? "version" = some (.string s)) :
    problemsAt [.name "version"] (issues (ofJson .keyValue k)) =
      problemsAt [] (issues (integer (.text s))) :=
  problemsAt_integer_field (by simp [fieldKinds]) hs

/-- Of the place of an integer, a message reports what is wrong with its text. -/
theorem problemsAt_integer (h : t.GivesInteger j place bound s) :
    problemsAt place (issues (t.ofJson j)) = problemsAt [] (issues (boundedInteger bound s)) := by
  cases h with
  | version ht hs =>
    rcases ht with rfl | rfl <;> exact problemsAt_integer_field (by simp [fieldKinds]) hs
  | globalVersion ht hs =>
    rcases ht with rfl | rfl <;> exact problemsAt_integer_field (by simp [fieldKinds]) hs
  | pageSize hs =>
    have hfield : ("page_size", .optional .positiveInteger) ∈
        fieldKinds .listKeyVersionsRequest := by simp [fieldKinds]
    rw [problemsAt_field hfield hs, problemsAt_check_optional (by simp [Raw.ofJson]),
      FieldKind.check, issues_outcome]
    rfl
  | value hk hs =>
    rw [problemsAt_pair hk (KeyValue.ofJson_ne_none_of_member? hs), problemsAt_version_of_pair hs]
    rfl
  | item hname hitems hk hs =>
    rw [problemsAt_item hname hitems hk, problemsAt_version_of_pair hs]
    rfl

theorem exists_members_of_givesInteger (h : t.GivesInteger j place bound s) :
    ∃ ms, j = .object ms := by
  cases h with
  | version _ h | globalVersion _ h | pageSize h | value h _ | item _ h _ _ =>
    exact exists_members_of_member? h

/-- The version of a pair is the integer that its text is read as. -/
theorem exists_version_of_read {kv : KeyValue} (h : KeyValue.read .wire (Raw.ofJson k) = .ok kv)
    (hs : k.member? "version" = some (.string s)) :
    ∃ n, integer (.text s) = .ok n ∧ kv.version = some n := by
  obtain ⟨ms, rfl⟩ := exists_members_of_member? hs
  obtain ⟨_, hrs, hread⟩ := record_eq_ok.mp h
  obtain rfl := Raw.record.inj hrs
  simp only [Checked.also_eq_ok] at hread
  obtain ⟨_, _, ⟨_, _, ⟨_, _, ⟨⟩, -, rfl⟩, hversion, rfl⟩, -, rfl⟩ := hread
  obtain ⟨n, rfl, hn⟩ := exists_read_of_withDefault hversion hs (by simp [Raw.ofJson])
  exact ⟨n, hn, rfl⟩

/-- A message that has been built has the integers that were given for it. -/
theorem hasInteger_of_ofJson {m : t.Body} (hread : t.ofJson j = .ok m)
    (h : t.GivesInteger j place bound s) :
    ∃ n, boundedInteger bound s = .ok n ∧ t.HasInteger m place n := by
  have htext : Raw.ofJson (.string s) ≠ .none := by simp [Raw.ofJson]
  obtain ⟨ms, rfl⟩ := exists_members_of_givesInteger h
  have hmembers : readMembers .wire (Raw.ofJsonMembers ms) t = .ok m := hread
  cases h with
  | version ht hs =>
    rcases ht with rfl | rfl
    · obtain ⟨n, hn, hversion⟩ := exists_version_of_read (k := .object ms) hread hs
      exact ⟨n, hn, .version hversion⟩
    · simp only [readMembers, Checked.also_eq_ok] at hmembers
      obtain ⟨_, _, ⟨_, _, ⟨_, _, ⟨⟩, -, rfl⟩, -, rfl⟩, hversion, rfl⟩ := hmembers
      obtain ⟨n, rfl, hn⟩ := exists_read_of_withDefault hversion hs htext
      exact ⟨n, hn, .deleted rfl⟩
  | globalVersion ht hs =>
    rcases ht with rfl | rfl
    · simp only [readMembers, Checked.also_eq_ok] at hmembers
      obtain ⟨_, _, ⟨_, _, ⟨_, _, ⟨_, _, ⟨⟩, -, rfl⟩, -, rfl⟩, -, rfl⟩, hversion, rfl⟩ := hmembers
      obtain ⟨n, rfl, hn⟩ := exists_read_of_withDefault hversion hs htext
      exact ⟨n, hn, .put rfl⟩
    · simp only [readMembers, Checked.also_eq_ok] at hmembers
      obtain ⟨_, _, ⟨_, _, ⟨_, _, ⟨⟩, -, rfl⟩, -, rfl⟩, hversion, rfl⟩ := hmembers
      obtain ⟨n, rfl, hn⟩ := exists_read_of_withDefault hversion hs htext
      exact ⟨n, hn, .listed rfl⟩
  | pageSize hs =>
    simp only [readMembers, Checked.also_eq_ok] at hmembers
    obtain ⟨_, _, ⟨_, _, ⟨_, _, ⟨_, _, ⟨⟩, -, rfl⟩, -, rfl⟩, hsize, rfl⟩, -, rfl⟩ := hmembers
    obtain ⟨n, rfl, hn⟩ := exists_read_of_withDefault hsize hs htext
    exact ⟨n, hn, .pageSize rfl⟩
  | value hk hs =>
    obtain ⟨kv, rfl, hkv⟩ :=
      exists_pair_of_member hread hk (KeyValue.ofJson_ne_none_of_member? hs)
    obtain ⟨n, hn, hversion⟩ := exists_version_of_read hkv hs
    exact ⟨n, hn, .value hversion⟩
  | item hname hitems hk hs =>
    obtain ⟨_, _, hkvs, hkv, hkvread⟩ := exists_pair_of_item hread hname hitems hk
    obtain ⟨n, hn, hversion⟩ := exists_version_of_read hkvread hs
    exact ⟨n, hn, .item hkvs hkv hversion⟩

theorem boundedInteger_of_ok {n : ℤ} (h : integerOfText s = .ok n)
    (hbound : ∀ b, bound = some b → b < n) : boundedInteger bound s = .ok n := by
  cases bound with
  | none => exact h
  | some b => simp only [boundedInteger, integerAbove, integer, h, if_pos (hbound b rfl)]

/-- An integer at the bound or below it is refused for that, though it can be read. -/
theorem boundedInteger_of_le {n b : ℤ} (h : integerOfText s = .ok n) (hle : n ≤ b) :
    boundedInteger (some b) s = fail .notAbove := by
  simp only [boundedInteger, integerAbove, integer, h, if_neg (Int.not_lt.mpr hle)]

theorem boundedInteger_of_fail {p : Problem} (h : integerOfText s = fail p) :
    boundedInteger bound s = fail p := by
  cases bound with
  | none => exact h
  | some b =>
    simp only [boundedInteger, integerAbove, integer, h]
    rfl

/-- A text that fails its check is the one problem at its place. -/
theorem refusedAt_of_fail {p : Problem} (hbody : Denotes body j)
    (h : t.GivesInteger j place bound s) (hread : boundedInteger bound s = fail p) :
    t.RefusedAt body place p.code := by
  have hproblems := problemsAt_integer h
  rw [hread] at hproblems
  unfold RefusedAt
  rw [decode_of_denotes t hbody]
  cases hmessage : t.ofJson j with
  | ok m =>
    rw [hmessage] at hproblems
    cases hproblems
  | error is =>
    rw [hmessage] at hproblems
    exact ⟨_, p, rfl, hproblems, rfl⟩

/-- A text that passes its check is no issue, and the message has its integer. -/
theorem read_of_ok {n : ℤ} (hbody : Denotes body j) (h : t.GivesInteger j place bound s)
    (hread : boundedInteger bound s = .ok n) :
    (∀ e, t.decode body = .error e → problemsAt place e.issues = []) ∧
      ∀ m, t.decode body = .ok m → t.HasInteger m place n := by
  constructor
  · intro e he
    rw [(issues_of_decode_eq_error hbody he).1, problemsAt_integer h, hread]
    rfl
  · intro m hm
    rw [decode_of_denotes t hbody, Checked.mapError_eq_ok] at hm
    obtain ⟨k, hk, hinteger⟩ := hasInteger_of_ofJson hm h
    obtain rfl := Except.ok.inj (hk.symm.trans hread)
    exact hinteger

end Reading

end MessageType

end VersionedStore
