import VersionedStore.Proofs.BaseUrl
import VersionedStore.Proofs.Config.Policy
import VersionedStore.Proofs.Field.Present
import VersionedStore.Config.Load

/-!
Configurations from the environment. An environment is refused, or every field
has the number that its variable is set to and all others have their defaults;
a variable that is set is never passed over. What is loaded keeps all bounds, so
that the policy and the client that it asks for can be built.
-/

namespace VersionedStore

open VersionedStore.Field

namespace Config

def realText? (cs : List Char) : Option Binary64 :=
  (Number.real? Text.digit? cs).map Binary64.ofNumeral

def integerText? (cs : List Char) : Option ℤ :=
  ((Number.integer? Text.digit? cs).filter fun (_, ds) => ds.length ≤ maxDigits).map
    fun (negative, ds) => Number.signed negative (Number.ofDigits ds)

/-- What the text of a variable makes of a field: a blank text leaves the default. -/
def Sets {α : Type} (parse : List Char → Option α) (default : α) (text : List Char) (x : α) :
    Prop :=
  if text = [] then x = default else parse text = some x

def Unfit {α : Type} (parse : List Char → Option α) (bounds : α → Prop) (text : List Char) :
    Prop :=
  text ≠ [] ∧ ∀ x, parse text = some x → ¬bounds x

def address (env : Environment) : String :=
  BaseUrl.withoutSlashes (String.ofList (setting env baseUrlSwitch))

/-- The configuration that has what an environment sets, and defaults elsewhere. -/
structure Follows (c : Config) (env : Environment) : Prop where
  baseUrl : setting env baseUrlSwitch ≠ [] ∧ c.baseUrl = address env ∧
    BaseUrl.check c.baseUrl = .ok c.baseUrl
  timeout : Sets realText? (.ofInt 30) (setting env timeoutSwitch) c.timeout.val
  maxAttempts : Sets integerText? 10 (setting env maxAttemptsSwitch) c.maxAttempts.val
  baseDelay : Sets realText? (.ofDecimal ⟨false, 1, -2⟩) (setting env baseDelaySwitch)
    c.baseDelay.val
  maxDelay : Sets (fun cs => (realText? cs).map some) none (setting env maxDelaySwitch)
    (c.maxDelay.map Subtype.val)
  maxJitter : Sets realText? .zero (setting env maxJitterSwitch) c.maxJitter.val

inductive Refused (env : Environment) : Prop where
  | noAddress (h : setting env baseUrlSwitch = [])
  | badAddress (h : ∀ url, BaseUrl.check (address env) ≠ .ok url)
  | timeout (h : Unfit realText? (fun x => Binary64.zero.lt x = true) (setting env timeoutSwitch))
  | maxAttempts (h : Unfit integerText? (1 ≤ ·) (setting env maxAttemptsSwitch))
  | baseDelay
    (h : Unfit realText? (fun x => Binary64.zero.le x = true) (setting env baseDelaySwitch))
  | maxDelay
    (h : Unfit realText? (fun x => Binary64.zero.le x = true) (setting env maxDelaySwitch))
  | maxJitter
    (h : Unfit realText? (fun x => Binary64.zero.le x = true) (setting env maxJitterSwitch))

/-- What an error tells: which variable is at fault, and the text that it is set to. -/
inductive Accuses (env : Environment) : ConfigError → Prop where
  | noBaseUrl (h : setting env baseUrlSwitch = []) : Accuses env (.noBaseUrl baseUrlSwitch)
  | notNumber {switch : String}
    (hswitch : switch ∈ [timeoutSwitch, baseDelaySwitch, maxDelaySwitch, maxJitterSwitch])
    (hset : setting env switch ≠ []) (hnone : realText? (setting env switch) = none) :
    Accuses env (.notNumber switch (String.ofList (setting env switch)))
  | notInteger (hset : setting env maxAttemptsSwitch ≠ [])
    (hnone : integerText? (setting env maxAttemptsSwitch) = none) :
    Accuses env (.notInteger maxAttemptsSwitch (String.ofList (setting env maxAttemptsSwitch)))
  | invalid (issues : List Issue) : Accuses env (.invalid issues)

/-! ## Variables -/

section

variable {α β : Type} {parse : List Char → Option α} {wrap : α → Raw} {text : List Char}
  {e : ConfigError} {given : Except ConfigError (Option Raw)}

/-- What is read of the text of a variable: nothing of a blank one, else a
number, or the error `e`. -/
structure Given (parse : List Char → Option α) (wrap : α → Raw) (text : List Char)
    (e : ConfigError) (given : Except ConfigError (Option Raw)) : Prop where
  blank : text = [] → given = .ok none
  number : text ≠ [] → ∀ x, parse text = some x → given = .ok (some (wrap x))
  unreadable : text ≠ [] → parse text = none → given = .error e

/-- A number is read of a variable as its text says, or an error that shows the text. -/
theorem given_number? (env : Environment) (switch : String) :
    Given realText? .real (setting env switch)
      (.notNumber switch (String.ofList (setting env switch))) (number? env switch) := by
  unfold number? realText?
  split
  · rename_i hblank
    rw [hblank]
    exact ⟨fun _ => rfl, fun h => absurd rfl h, fun h => absurd rfl h⟩
  · rename_i hne
    refine ⟨fun h => absurd h hne, ?_, ?_⟩
    · intro _ x hx
      obtain ⟨n, hn, rfl⟩ := Option.map_eq_some_iff.mp hx
      rw [hn]
    · intro _ hnone
      rw [Option.map_eq_none_iff] at hnone
      rw [hnone]

theorem given_integer? (env : Environment) (switch : String) :
    Given integerText? .integer (setting env switch)
      (.notInteger switch (String.ofList (setting env switch))) (integer? env switch) := by
  unfold integer? integerText?
  split
  · rename_i hblank
    rw [hblank]
    exact ⟨fun _ => rfl, fun h => absurd rfl h, fun h => absurd rfl h⟩
  · rename_i hne
    refine ⟨fun h => absurd h hne, ?_, ?_⟩
    · intro _ x hx
      obtain ⟨⟨negative, ds⟩, hn, rfl⟩ := Option.map_eq_some_iff.mp hx
      obtain ⟨hn, hlength⟩ := Option.filter_eq_some_iff.mp hn
      rw [hn]
      exact if_pos (of_decide_eq_true hlength)
    · intro _ hnone
      rw [Option.map_eq_none_iff] at hnone
      cases hn : Number.integer? Text.digit? (setting env switch) with
      | none => rfl
      | some n =>
        have hlength : ¬n.2.length ≤ maxDigits := by simpa [hn] using hnone
        exact if_neg hlength

theorem Given.of_error (h : Given parse wrap text e given) {e' : ConfigError}
    (herror : given = .error e') : text ≠ [] ∧ parse text = none ∧ e' = e := by
  by_cases htext : text = []
  · rw [h.blank htext] at herror
    cases herror
  · cases hparse : parse text with
    | none =>
      rw [h.unreadable htext hparse] at herror
      exact ⟨htext, rfl, (Except.error.inj herror).symm⟩
    | some x =>
      rw [h.number htext x hparse] at herror
      cases herror

theorem Given.option (h : Given parse wrap text e given) :
    Given (fun cs => (parse cs).map some) (rawOption wrap) text e given where
  blank := h.blank
  number htext x hx := by
    obtain ⟨y, hy, rfl⟩ := Option.map_eq_some_iff.mp hx
    exact h.number htext y hy
  unreadable htext hnone := h.unreadable htext (Option.map_eq_none_iff.mp hnone)

def Reads (given : Except ConfigError (Option Raw)) (read : Raw → Checked β) (default y : β) :
    Prop :=
  ∃ r, given = .ok r ∧ Takes r read default y

/-- A field gets what its variable sets, since the check of a field keeps the
number that it is given. -/
theorem Given.reads_iff (h : Given parse wrap text e given) {val : β → α}
    (hval : val.Injective) {read : Raw → Checked β}
    (hread : ∀ x y, read (wrap x) = .ok y ↔ val y = x) {default y : β} :
    Reads given read default y ↔ Sets parse (val default) text (val y) := by
  unfold Reads Takes Sets
  by_cases htext : text = []
  · rw [if_pos htext, h.blank htext, hval.eq_iff]
    simp [eq_comm]
  · rw [if_neg htext]
    cases hparse : parse text with
    | none => simp [h.unreadable htext hparse]
    | some x =>
      rw [h.number htext x hparse]
      simp [hread, eq_comm]

/-- A text that is not unfit sets its field to something within the bounds. -/
theorem exists_sets {bounds : α → Prop} {default : α} (hdefault : bounds default)
    (h : ¬Unfit parse bounds text) : ∃ x, bounds x ∧ Sets parse default text x := by
  unfold Sets
  by_cases htext : text = []
  · exact ⟨default, hdefault, by rw [if_pos htext]⟩
  · simp only [if_neg htext]
    by_contra hnone
    exact h ⟨htext, fun x hx hbounds => hnone ⟨x, hbounds, hx⟩⟩

/-- What sets a field is not refused, so no configuration is loaded of a refused
environment. -/
theorem not_unfit_of_sets {bounds : α → Prop} {default x : α}
    (h : Sets parse default text x) (hx : bounds x) : ¬Unfit parse bounds text := by
  rintro ⟨htext, hunfit⟩
  rw [Sets, if_neg htext] at h
  exact hunfit x h hx

theorem unfit_option_iff {bounds : α → Prop} :
    Unfit (fun cs => (parse cs).map some) (fun o => ∀ x, o = some x → bounds x) text ↔
      Unfit parse bounds text := by
  unfold Unfit
  rw [and_congr_right_iff]
  intro _
  constructor
  · intro h x hx hbounds
    refine h (some x) (congrArg (Option.map some) hx) fun y hy => ?_
    obtain rfl := Option.some.inj hy
    exact hbounds
  · intro h o ho hall
    obtain ⟨x, hx, rfl⟩ := Option.map_eq_some_iff.mp ho
    exact h x hx (hall x rfl)

theorem exists_sets_option {bounds : α → Prop} (h : ¬Unfit parse bounds text) :
    ∃ x : Option { x // bounds x },
      Sets (fun cs => (parse cs).map some) none text (x.map Subtype.val) := by
  have hnone : ∀ x, (none : Option α) = some x → bounds x := nofun
  obtain ⟨x, hx, hsets⟩ := exists_sets hnone (mt unfit_option_iff.mp h)
  cases x with
  | none => exact ⟨none, hsets⟩
  | some x => exact ⟨some ⟨x, hx x rfl⟩, hsets⟩

end

theorem zero_le_standardBaseDelay : Binary64.zero.le standardBaseDelay = true := by
  decide +kernel

def standardDelay : NonNegativeReal := ⟨standardBaseDelay, zero_le_standardBaseDelay⟩

def fields (url : String) (timeout maxAttempts baseDelay maxDelay maxJitter : Option Raw) :
    List (String × Option Raw) :=
  [("base_url", some (.text url)), ("timeout_seconds", timeout), ("max_attempts", maxAttempts),
    ("base_delay_seconds", baseDelay), ("max_delay_seconds", maxDelay),
    ("max_jitter_seconds", maxJitter)]

/-- An environment has members if it has an address and each number can be read. -/
theorem members_eq_ok_iff {env : Environment} {ms : List (String × Raw)} :
    members env = .ok ms ↔ setting env baseUrlSwitch ≠ [] ∧
      ∃ timeout, number? env timeoutSwitch = .ok timeout ∧
      ∃ maxAttempts, integer? env maxAttemptsSwitch = .ok maxAttempts ∧
      ∃ baseDelay, number? env baseDelaySwitch = .ok baseDelay ∧
      ∃ maxDelay, number? env maxDelaySwitch = .ok maxDelay ∧
      ∃ maxJitter, number? env maxJitterSwitch = .ok maxJitter ∧
        present (fields (address env) timeout maxAttempts baseDelay maxDelay maxJitter) = ms := by
  unfold members
  by_cases hblank : setting env baseUrlSwitch = []
  · simp [hblank, throw, throwThe, MonadExceptOf.throw, bind, Except.bind]
  · simp only [hblank, if_false, Checked.bind_eq_ok, pure, Except.pure, Except.ok.injEq]
    rw [and_iff_right hblank]
    rfl

theorem readBaseUrl_text_eq_ok_iff {text url : String} :
    readBaseUrl (.text text) = .ok url ↔ BaseUrl.check text = .ok url := by
  by_cases hempty : text.isEmpty = true
  · obtain rfl : text = "" := by simpa using hempty
    have hread : readBaseUrl (.text "") = fail .textTooShort := rfl
    have hnone : BaseUrl.check "" ≠ .ok url := by
      intro h
      cases h
    rw [hread]
    exact iff_of_false fail_ne_ok hnone
  · have hread : nonEmptyText (.text text) = .ok text := by
      simp only [nonEmptyText, Field.text, if_neg hempty]
    rw [readBaseUrl, hread]
    dsimp only
    cases BaseUrl.check text with
    | ok v => rw [Except.ok.injEq, Except.ok.injEq]
    | error f => exact iff_of_false fail_ne_ok fun h => by cases h

/-- The address that is asked for has lost its slashes, so checking it changes nothing. -/
theorem check_address_iff {env : Environment} {url : String} :
    BaseUrl.check (address env) = .ok url ↔ url = address env ∧ BaseUrl.check url = .ok url := by
  constructor
  · intro h
    refine ⟨?_, BaseUrl.check_of_check h⟩
    rw [(BaseUrl.check_eq_ok_iff.mp h).2, address, BaseUrl.withoutSlashes_withoutSlashes]
  · rintro ⟨rfl, h⟩
    exact h

section

variable {env : Environment} {c : Config}

/-- A configuration is read field by field. -/
theorem readMembers_eq_ok_iff {ms : List (String × Raw)} :
    readMembers ms = .ok c ↔ required ms "base_url" readBaseUrl = .ok c.baseUrl ∧
      withDefault ms "timeout_seconds" standardTimeout realAboveZero = .ok c.timeout ∧
      withDefault ms "max_attempts" ⟨standardMaxAttempts, one_le_standardMaxAttempts⟩
        (integerAtLeast 1) = .ok c.maxAttempts ∧
      withDefault ms "base_delay_seconds" standardDelay realAtLeastZero = .ok c.baseDelay ∧
      withDefault ms "max_delay_seconds" none (optional realAtLeastZero) = .ok c.maxDelay ∧
      withDefault ms "max_jitter_seconds" noJitter realAtLeastZero = .ok c.maxJitter := by
  simp only [readMembers, Checked.also_eq_ok]
  constructor
  · rintro ⟨_, _, ⟨_, _, ⟨_, _, ⟨_, _, ⟨_, _, ⟨_, _, ⟨⟩, hurl, rfl⟩, htimeout, rfl⟩, hattempts, rfl⟩,
      hbase, rfl⟩, hmax, rfl⟩, hjitter, rfl⟩
    exact ⟨hurl, htimeout, hattempts, hbase, hmax, hjitter⟩
  · rintro ⟨hurl, htimeout, hattempts, hbase, hmax, hjitter⟩
    exact ⟨_, _, ⟨_, _, ⟨_, _, ⟨_, _, ⟨_, _, ⟨_, _, rfl, hurl, rfl⟩, htimeout, rfl⟩, hattempts, rfl⟩,
      hbase, rfl⟩, hmax, rfl⟩, hjitter, rfl⟩

/-- A record of given fields is a configuration if each of them passes its own check. -/
theorem readMembers_fields_eq_ok_iff {url : String}
    {timeout maxAttempts baseDelay maxDelay maxJitter : Option Raw} :
    readMembers (present (fields url timeout maxAttempts baseDelay maxDelay maxJitter)) = .ok c ↔
      BaseUrl.check url = .ok c.baseUrl ∧
      Takes timeout realAboveZero standardTimeout c.timeout ∧
      Takes maxAttempts (integerAtLeast 1) ⟨standardMaxAttempts, one_le_standardMaxAttempts⟩
        c.maxAttempts ∧
      Takes baseDelay realAtLeastZero standardDelay c.baseDelay ∧
      Takes maxDelay (optional realAtLeastZero) none c.maxDelay ∧
      Takes maxJitter realAtLeastZero noJitter c.maxJitter := by
  obtain ⟨fs, hfs⟩ : ∃ fs, fs = fields url timeout maxAttempts baseDelay maxDelay maxJitter :=
    ⟨_, rfl⟩
  have hlist : fs.map Prod.fst = ["base_url", "timeout_seconds", "max_attempts",
      "base_delay_seconds", "max_delay_seconds", "max_jitter_seconds"] := by rw [hfs]; rfl
  have hnames : (fs.map Prod.fst).Nodup := by rw [hlist]; decide
  have hurl : ("base_url", some (Raw.text url)) ∈ fs := by simp [hfs, fields]
  have htimeout : ("timeout_seconds", timeout) ∈ fs := by simp [hfs, fields]
  have hattempts : ("max_attempts", maxAttempts) ∈ fs := by simp [hfs, fields]
  have hbase : ("base_delay_seconds", baseDelay) ∈ fs := by simp [hfs, fields]
  have hmax : ("max_delay_seconds", maxDelay) ∈ fs := by simp [hfs, fields]
  have hjitter : ("max_jitter_seconds", maxJitter) ∈ fs := by simp [hfs, fields]
  rw [← hfs, readMembers_eq_ok_iff, required_present_eq_ok hnames hurl,
    readBaseUrl_text_eq_ok_iff, withDefault_present_eq_ok hnames htimeout,
    withDefault_present_eq_ok hnames hattempts, withDefault_present_eq_ok hnames hbase,
    withDefault_present_eq_ok hnames hmax, withDefault_present_eq_ok hnames hjitter]

/-- Reading the variables and checking the fields taken together, variable by variable. -/
theorem ofEnvironment_eq_ok_iff_reads : ofEnvironment env = .ok c ↔
    (setting env baseUrlSwitch ≠ [] ∧ BaseUrl.check (address env) = .ok c.baseUrl) ∧
      Reads (number? env timeoutSwitch) realAboveZero standardTimeout c.timeout ∧
      Reads (integer? env maxAttemptsSwitch) (integerAtLeast 1)
        ⟨standardMaxAttempts, one_le_standardMaxAttempts⟩ c.maxAttempts ∧
      Reads (number? env baseDelaySwitch) realAtLeastZero standardDelay c.baseDelay ∧
      Reads (number? env maxDelaySwitch) (optional realAtLeastZero) none c.maxDelay ∧
      Reads (number? env maxJitterSwitch) realAtLeastZero noJitter c.maxJitter := by
  have hof : ofEnvironment env = .ok c ↔ ∃ ms, members env = .ok ms ∧ readMembers ms = .ok c := by
    rw [ofEnvironment, Checked.bind_eq_ok]
    simp only [Checked.mapError_eq_ok]
  rw [hof]
  constructor
  · intro h
    obtain ⟨ms, hms, hread⟩ := h
    obtain ⟨hurl, t, ht, n, hn, b, hb, d, hd, j, hj, rfl⟩ := members_eq_ok_iff.mp hms
    obtain ⟨hcheck, htake, hntake, hbtake, hdtake, hjtake⟩ := readMembers_fields_eq_ok_iff.mp hread
    exact ⟨⟨hurl, hcheck⟩, ⟨t, ht, htake⟩, ⟨n, hn, hntake⟩, ⟨b, hb, hbtake⟩, ⟨d, hd, hdtake⟩,
      ⟨j, hj, hjtake⟩⟩
  · intro h
    obtain ⟨⟨hurl, hcheck⟩, ⟨t, ht, htake⟩, ⟨n, hn, hntake⟩, ⟨b, hb, hbtake⟩, ⟨d, hd, hdtake⟩,
      ⟨j, hj, hjtake⟩⟩ := h
    exact ⟨_, members_eq_ok_iff.mpr ⟨hurl, t, ht, n, hn, b, hb, d, hd, j, hj, rfl⟩,
      readMembers_fields_eq_ok_iff.mpr ⟨hcheck, htake, hntake, hbtake, hdtake, hjtake⟩⟩

theorem val_standardTimeout : standardTimeout.val = .ofInt 30 := by
  rw [standardTimeout]

theorem val_standardDelay : standardDelay.val = .ofDecimal ⟨false, 1, -2⟩ := by
  simp only [standardDelay]
  rw [standardBaseDelay]

theorem val_noJitter : noJitter.val = .zero := by
  rw [noJitter]

/-- A configuration is loaded just if it is the one that the environment sets. -/
theorem ofEnvironment_eq_ok_iff : ofEnvironment env = .ok c ↔ c.Follows env := by
  have hnumber := given_number? env
  have hinjective : (Subtype.val : NonNegativeReal → Binary64).Injective :=
    Subtype.val_injective
  rw [ofEnvironment_eq_ok_iff_reads, check_address_iff,
    (hnumber timeoutSwitch).reads_iff Subtype.val_injective
      fun _ _ => realAboveZero_real_eq_ok,
    (given_integer? env maxAttemptsSwitch).reads_iff Subtype.val_injective
      fun _ _ => integerAtLeast_integer_eq_ok,
    (hnumber baseDelaySwitch).reads_iff hinjective fun _ _ => realAtLeastZero_real_eq_ok,
    (hnumber maxDelaySwitch).option.reads_iff (Option.map_injective hinjective)
      fun _ _ => optional_realAtLeastZero_eq_ok,
    (hnumber maxJitterSwitch).reads_iff hinjective fun _ _ => realAtLeastZero_real_eq_ok,
    val_standardTimeout, val_standardDelay, val_noJitter]
  constructor
  · intro h
    obtain ⟨hurl, ht, hn, hb, hd, hj⟩ := h
    exact ⟨hurl, ht, hn, hb, hd, hj⟩
  · intro h
    exact ⟨h.baseUrl, h.timeout, h.maxAttempts, h.baseDelay, h.maxDelay, h.maxJitter⟩

/-- An error names a variable that is really at fault, with its text. -/
theorem accuses_of_error {e : ConfigError} (h : ofEnvironment env = .error e) :
    Accuses env e := by
  have hnumber : ∀ {switch}, number? env switch = .error e →
      switch ∈ [timeoutSwitch, baseDelaySwitch, maxDelaySwitch, maxJitterSwitch] →
      Accuses env e := by
    intro switch herror hswitch
    obtain ⟨hset, hnone, rfl⟩ := (given_number? env switch).of_error herror
    exact .notNumber hswitch hset hnone
  rw [ofEnvironment, Checked.bind_eq_error] at h
  rcases h with hmembers | ⟨ms, -, hread⟩
  · unfold members at hmembers
    by_cases hblank : setting env baseUrlSwitch = []
    · rw [if_pos hblank] at hmembers
      cases hmembers
      exact .noBaseUrl hblank
    · simp only [hblank, if_false, Checked.bind_eq_error, pure, Except.pure, reduceCtorEq, and_false,
        exists_false, or_false] at hmembers
      rcases hmembers with h | ⟨_, -, h | ⟨_, -, h | ⟨_, -, h | ⟨_, -, h⟩⟩⟩⟩
      · exact hnumber h (by simp)
      · obtain ⟨hset, hnone, rfl⟩ := (given_integer? env maxAttemptsSwitch).of_error h
        exact .notInteger hset hnone
      · exact hnumber h (by simp)
      · exact hnumber h (by simp)
      · exact hnumber h (by simp)
  · cases hissues : readMembers ms with
    | ok c => simp [hissues, Except.mapError] at hread
    | error issues =>
      rw [hissues] at hread
      cases hread
      exact .invalid issues

theorem not_refused_of_follows (h : c.Follows env) : ¬Refused env := by
  intro hrefused
  obtain ⟨⟨hne, hurl, hcheck⟩, htimeout, hattempts, hbase, hmax, hjitter⟩ := h
  cases hrefused with
  | noAddress hblank => exact hne hblank
  | badAddress hbad => exact hbad _ (check_address_iff.mpr ⟨hurl, hcheck⟩)
  | timeout hunfit => exact not_unfit_of_sets htimeout c.bounded.timeout.1 hunfit
  | maxAttempts hunfit => exact not_unfit_of_sets hattempts c.bounded.maxAttempts hunfit
  | baseDelay hunfit => exact not_unfit_of_sets hbase c.bounded.baseDelay.1 hunfit
  | maxDelay hunfit =>
    have hbounds : ∀ x, c.maxDelay.map Subtype.val = some x → Binary64.zero.le x = true :=
      fun x hx => (c.bounded.maxDelay x hx).1
    exact not_unfit_of_sets hmax hbounds (unfit_option_iff.mpr hunfit)
  | maxJitter hunfit => exact not_unfit_of_sets hjitter c.bounded.maxJitter.1 hunfit

/-- An environment that gives no reason to refuse it asks for a configuration. -/
theorem exists_follows (h : ¬Refused env) : ∃ c : Config, c.Follows env := by
  have hne : setting env baseUrlSwitch ≠ [] := fun hblank => h (.noAddress hblank)
  obtain ⟨url, hcheck⟩ : ∃ url, BaseUrl.check (address env) = .ok url := by
    by_contra hnone
    exact h (.badAddress (not_exists.mp hnone))
  obtain ⟨timeout, htimeout, ht⟩ := exists_sets (val_standardTimeout ▸ standardTimeout.property)
    fun hunfit => h (.timeout hunfit)
  obtain ⟨attempts, hattempts, hn⟩ := exists_sets (by decide : (1 : ℤ) ≤ 10)
    fun hunfit => h (.maxAttempts hunfit)
  obtain ⟨base, hbase, hb⟩ := exists_sets (val_standardDelay ▸ standardDelay.property)
    fun hunfit => h (.baseDelay hunfit)
  obtain ⟨cap, hd⟩ := exists_sets_option fun hunfit => h (.maxDelay hunfit)
  obtain ⟨jitter, hjitter, hj⟩ := exists_sets (val_noJitter ▸ noJitter.property)
    fun hunfit => h (.maxJitter hunfit)
  exact ⟨⟨url, ⟨timeout, htimeout⟩, ⟨attempts, hattempts⟩, ⟨base, hbase⟩, cap, ⟨jitter, hjitter⟩⟩,
    ⟨hne, check_address_iff.mp hcheck⟩, ht, hn, hb, hd, hj⟩

end

structure Loaded (env : Environment) (c : Config) : Prop where
  follows : c.Follows env
  bounded : c.Bounded
  address : ∃ u, BaseUrl.Names c.baseUrl u ∧ u.isAbsolute = true
  unslashed : c.baseUrl.toList.getLast? ≠ some '/'
  policy : c.builtPolicy = .ok c.policy
  client : Client.ofConfig c =
    .ok (⟨c.baseUrl, c.policy, jsonContentType⟩, .http (.opened c.timeout))

/-- All that is promised of a loaded configuration follows from what it was made of. -/
theorem loaded_of_follows {env : Environment} {c : Config} (h : c.Follows env) :
    Loaded env c where
  follows := h
  bounded := c.bounded
  address := by
    obtain ⟨⟨u, hu⟩, -⟩ := BaseUrl.check_eq_ok_iff.mp h.baseUrl.2.2
    exact ⟨u, hu, hu.isAbsolute⟩
  unslashed := by
    rw [h.baseUrl.2.1]
    exact BaseUrl.getLast?_withoutSlashes _
  policy := builtPolicy_eq_ok c
  client := ofConfig_eq_ok h.baseUrl.2.2

/-- An environment is refused with an error, and then for one of the reasons that
there are, or a configuration is loaded that has everything that is set. -/
theorem environment_is_refused_or_loaded (env : Environment) :
    (Refused env ∧ ∃ e, ofEnvironment env = .error e ∧ Accuses env e) ∨
      ¬Refused env ∧ ∃ c, ofEnvironment env = .ok c ∧ Loaded env c := by
  by_cases hrefused : Refused env
  · left
    refine ⟨hrefused, ?_⟩
    cases hload : ofEnvironment env with
    | error e => exact ⟨e, rfl, accuses_of_error hload⟩
    | ok c => exact absurd hrefused (not_refused_of_follows (ofEnvironment_eq_ok_iff.mp hload))
  · right
    obtain ⟨c, hfollows⟩ := exists_follows hrefused
    exact ⟨hrefused, c, ofEnvironment_eq_ok_iff.mpr hfollows, loaded_of_follows hfollows⟩

example : (ofEnvironment [(baseUrlSwitch, "http://h/"), (maxAttemptsSwitch, " ")]).toOption.map
      (·.baseUrl) = some "http://h" ∧
    ofEnvironment [(baseUrlSwitch, "http://h"), (timeoutSwitch, "soon")] =
      .error (.notNumber timeoutSwitch "soon") := by decide +kernel

end Config

end VersionedStore
