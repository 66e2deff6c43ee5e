import VersionedStore.Proofs.Tracing.Transparency

/-!
Which operations of a process leave spans to look at. All clients of a process share
one tracing; it may be configured, cleared and reset while the environment changes. A
provider is installed by the first configuration that finds tracing switched on, and
it is there for good: whether it captures spans is settled then, whatever is asked of
a later configuration.
-/

namespace VersionedStore

structure Errand where
  client : Client
  transport : Transport
  fractions : Fractions
  usage : Usage
  op : Operation
  request : op.Request
  reactions : List Reaction

def Errand.run (e : Errand) : Run e.op.Reply :=
  (e.client.call e.transport e.fractions e.usage e.op e.request e.reactions).run

structure Process where
  tracing : Tracing
  environment : Environment

namespace Process

inductive Step where
  | call (e : Errand)
  | configure
  | clear
  | reset
  | set (name value : String)
  | unset (name : String)

def Step.keepsSpans : Step → Bool
  | .clear | .reset => false
  | _ => true

structure Configuration where
  environment : Environment
  answer : Bool
  deriving DecidableEq

def session (p : Process) (e : Errand) : Session :=
  ⟨e.client, e.transport, e.usage, p.tracing, p.environment⟩

def take (p : Process) : Step → Process × Option Configuration
  | .call e =>
    ({ p with
        tracing := ((p.session e).call e.fractions e.op e.request e.reactions).1.tracing }, none)
  | .configure =>
    ({ p with tracing := (p.tracing.configure p.environment).1 },
      some ⟨p.environment, (p.tracing.configure p.environment).2.1⟩)
  | .clear => ({ p with tracing := p.tracing.clear }, none)
  | .reset => ({ p with tracing := p.tracing.reset }, none)
  | .set name value => ({ p with environment := p.environment.set name value }, none)
  | .unset name => ({ p with environment := p.environment.unset name }, none)

def run (p : Process) : List Step → Process × List Configuration
  | [] => (p, [])
  | step :: steps =>
    let (after, configuration) := p.take step
    let (final, rest) := after.run steps
    (final, configuration.toList ++ rest)

def fresh (environment : Environment) : Process := ⟨.initial, environment⟩

def first? (configurations : List Configuration) : Option Configuration :=
  configurations.find? (·.answer)

structure Follows (p : Process) (configurations : List Configuration) : Prop where
  installed : p.tracing.installed =
    (first? configurations).map fun c => Tracing.provider c.environment
  captured : ∀ c, first? configurations = some c → Tracing.captures c.environment = true →
    p.tracing.captured.isSome = true
  idle : first? configurations = none →
    p.tracing.configured = false ∧ p.tracing.captured = none

def AskedFirst (configurations : List Configuration) : Prop :=
  ∃ c, first? configurations = some c ∧ Tracing.captures c.environment = true

theorem first?_append_of_some {configurations : List Configuration} {c : Configuration}
    (h : first? configurations = some c) (more : List Configuration) :
    first? (configurations ++ more) = some c := by
  rw [first?, List.find?_append, ← first?, h, Option.some_or]

theorem first?_append_of_none {configurations : List Configuration}
    (h : first? configurations = none) (more : List Configuration) :
    first? (configurations ++ more) = first? more := by
  rw [first?, List.find?_append, ← first?, h, Option.none_or, first?]

end Process

namespace Tracing

variable (t : Tracing) (env : Environment)

/-- What a configuration may do: nothing while tracing is switched off, nothing more if
all is ready, and the first one of all installs its provider. -/
theorem configure_cases :
    (enabled env = false ∧ (t.configure env).1 = t ∧ (t.configure env).2.1 = false) ∨
    (enabled env = true ∧ t.ready env = true ∧ (t.configure env).1 = t ∧
      (t.configure env).2.1 = true) ∨
    (enabled env = true ∧ t.ready env = false ∧
      (t.configure env).1 = ⟨true, t.installed.or (some (provider env)),
        if captures env then some [] else t.captured⟩ ∧
      (t.configure env).2.1 = true) := by
  unfold configure
  cases henabled : enabled env with
  | false => exact .inl ⟨rfl, rfl, rfl⟩
  | true =>
    cases hready : t.ready env with
    | true => exact .inr (.inl ⟨rfl, rfl, rfl, rfl⟩)
    | false => exact .inr (.inr ⟨rfl, rfl, rfl, rfl⟩)

/-- Spans that can be captured stay captured when tracing is configured. -/
theorem captured_configure {spans : List Span} (h : t.captured = some spans) :
    (t.configure env).1.captured = some spans := by
  rcases t.configure_cases env with ⟨-, hsame, -⟩ | ⟨-, -, hsame, -⟩ | ⟨-, hready, hnew, -⟩
  · rw [hsame, h]
  · rw [hsame, h]
  · have hcaptures : captures env = false := by
      rw [ready, h] at hready
      simpa using (Bool.or_eq_false_iff.mp hready).1
    rw [hnew, hcaptures]
    exact h

/-- Configured tracing has nothing left to configure. -/
theorem configure_configure : (t.configure env).1.configure env =
    ((t.configure env).1, (t.configure env).2.1,
      if enabled env then [] else [.tracingDisabled enabledSwitch]) := by
  rcases t.configure_cases env with ⟨hoff, hsame, hanswer⟩ | ⟨hon, hready, hsame, hanswer⟩ |
    ⟨hon, -, hnew, hanswer⟩
  · rw [hsame, hanswer, configure, hoff]
    rfl
  · rw [hsame, hanswer, configure, hon, hready]
    rfl
  · rw [hnew, hanswer, configure, hon]
    simp [ready]

/-- An operation may add to the captured spans, and touches nothing else. -/
theorem record_frame (op : Operation) (m : op.Request) (failure : Option Raised) :
    (t.record env op m failure).installed = t.installed ∧
      (t.record env op m failure).configured = t.configured ∧
      ∃ added, (t.record env op m failure).captured = t.captured.map (· ++ added) := by
  have hsame : t.captured = t.captured.map (· ++ []) := by simp
  unfold record finish
  split_ifs
  · exact ⟨rfl, rfl, _, rfl⟩
  · exact ⟨rfl, rfl, [], hsame⟩
  · exact ⟨rfl, rfl, [], hsame⟩

end Tracing

namespace Process

variable {p : Process} {configurations : List Configuration} {step : Step} {steps : List Step}
  {spans : List Span}

theorem tracing_take_call (p : Process) (e : Errand) : (p.take (.call e)).1.tracing =
    p.tracing.record p.environment e.op e.request e.run.failure? := by
  rw [take, Session.tracing_call, Session.snd_call]
  rfl

/-- Before the first configuration there is nothing to know. -/
theorem follows_fresh (environment : Environment) : (fresh environment).Follows [] :=
  ⟨rfl, nofun, fun _ => ⟨rfl, rfl⟩⟩

/-- The configurations are not forgotten by a step that does not configure. -/
theorem Follows.of_frame (h : p.Follows configurations) {q : Process}
    (hinstalled : q.tracing.installed = p.tracing.installed)
    (hconfigured : p.tracing.configured = false → q.tracing.configured = false)
    (hcaptured : ∃ f, q.tracing.captured = p.tracing.captured.map f) :
    q.Follows (configurations ++ []) := by
  rw [List.append_nil]
  obtain ⟨f, hf⟩ := hcaptured
  refine ⟨hinstalled.trans h.installed, fun c hc hcaptures => ?_, fun hnone => ?_⟩
  · rw [hf, Option.isSome_map]
    exact h.captured c hc hcaptures
  · obtain ⟨hidle, hempty⟩ := h.idle hnone
    exact ⟨hconfigured hidle, by rw [hf, hempty, Option.map_none]⟩

/-- Only the first configuration that finds tracing switched on counts. -/
theorem Follows.configure (h : p.Follows configurations) :
    (p.take .configure).1.Follows (configurations ++ (p.take .configure).2.toList) := by
  obtain ⟨tracing, environment⟩ := p
  simp only [take, Option.toList_some]
  rcases tracing.configure_cases environment with ⟨-, hsame, hanswer⟩ |
    ⟨-, hready, hsame, hanswer⟩ | ⟨-, -, hnew, hanswer⟩
  · have hfirst : first? (configurations ++ [⟨environment, false⟩]) = first? configurations := by
      simp [first?]
    rw [hsame, hanswer]
    exact ⟨hfirst ▸ h.installed, hfirst ▸ h.captured, hfirst ▸ h.idle⟩
  · rw [hsame, hanswer]
    cases hfirst : first? configurations with
    | some c =>
      have hstill := first?_append_of_some hfirst [⟨environment, true⟩]
      exact ⟨hstill ▸ hfirst ▸ h.installed, hstill ▸ hfirst ▸ h.captured,
        fun hnone => by rw [hstill] at hnone; cases hnone⟩
    | none =>
      -- nothing is ready before the first configuration
      obtain ⟨hidle, hempty⟩ : tracing.configured = false ∧ tracing.captured = none :=
        h.idle hfirst
      simp [Tracing.ready, hidle, hempty] at hready
  · rw [hnew, hanswer]
    cases hfirst : first? configurations with
    | some c =>
      -- another provider is built, but the installed one stays
      have hstill := first?_append_of_some hfirst [⟨environment, true⟩]
      refine ⟨?_, fun c' hc' hcaptures => ?_, fun hnone => by rw [hstill] at hnone; cases hnone⟩
      · rw [hstill, h.installed, hfirst]
        rfl
      · obtain rfl := Option.some.inj (hstill.symm.trans hc')
        dsimp only
        split_ifs
        · rfl
        · exact h.captured c hfirst hcaptures
    | none =>
      have hnow := first?_append_of_none hfirst [⟨environment, true⟩]
      refine ⟨?_, fun c hc hcaptures => ?_, fun hnone => by rw [hnow] at hnone; cases hnone⟩
      · rw [hnow, h.installed, hfirst]
        rfl
      · obtain rfl := Option.some.inj (hnow.symm.trans hc)
        exact congrArg Option.isSome (if_pos hcaptures)

/-- What a process knows of its configurations, it knows after any step. -/
theorem Follows.take (h : p.Follows configurations) (step : Step) :
    (p.take step).1.Follows (configurations ++ (p.take step).2.toList) := by
  cases step with
  | configure => exact h.configure
  | call e =>
    obtain ⟨hinstalled, hconfigured, added, hcaptured⟩ :=
      p.tracing.record_frame p.environment e.op e.request e.run.failure?
    rw [← tracing_take_call] at hinstalled hconfigured hcaptured
    exact h.of_frame hinstalled hconfigured.trans ⟨_, hcaptured⟩
  | clear => exact h.of_frame rfl id ⟨_, rfl⟩
  | reset => exact h.of_frame rfl (fun _ => rfl) ⟨_, rfl⟩
  | _ => exact h.of_frame rfl id ⟨id, (congrFun Option.map_id _).symm⟩

/-- What is known of the configurations is known after any steps. -/
theorem Follows.run (h : p.Follows configurations) (steps : List Step) :
    (p.run steps).1.Follows (configurations ++ (p.run steps).2) := by
  induction steps generalizing p configurations with
  | nil => exact (List.append_nil configurations).symm ▸ h
  | cons step steps ih =>
    have hrest := ih (h.take step)
    rw [List.append_assoc] at hrest
    exact hrest

section Kept

/-- The captured spans are added to, until they are cleared. -/
theorem captured_take (h : p.tracing.captured = some spans) (hstep : step.keepsSpans = true) :
    ∃ added, (p.take step).1.tracing.captured = some (spans ++ added) := by
  cases step with
  | call e =>
    obtain ⟨-, -, added, hcaptured⟩ :=
      p.tracing.record_frame p.environment e.op e.request e.run.failure?
    rw [← tracing_take_call, h, Option.map_some] at hcaptured
    exact ⟨added, hcaptured⟩
  | configure =>
    exact ⟨[], by rw [List.append_nil]; exact p.tracing.captured_configure p.environment h⟩
  | clear => cases hstep
  | reset => cases hstep
  | _ => exact ⟨[], by rw [List.append_nil]; exact h⟩

/-- Steps that neither clear nor reset add to the captured spans, and take none away. -/
theorem captured_run (h : p.tracing.captured = some spans)
    (hsteps : ∀ step ∈ steps, step.keepsSpans = true) :
    ∃ added, (p.run steps).1.tracing.captured = some (spans ++ added) := by
  induction steps generalizing p spans with
  | nil => exact ⟨[], by rw [List.append_nil]; exact h⟩
  | cons step steps ih =>
    obtain ⟨hstep, hrest⟩ := List.forall_mem_cons.mp hsteps
    obtain ⟨added, hadded⟩ := captured_take h hstep
    obtain ⟨more, hmore⟩ := ih hadded hrest
    exact ⟨added ++ more, by rw [← List.append_assoc]; exact hmore⟩

theorem isSome_captured_take (h : p.tracing.captured.isSome = true) (step : Step) :
    (p.take step).1.tracing.captured.isSome = true := by
  obtain ⟨spans, hspans⟩ := Option.isSome_iff_exists.mp h
  cases hstep : step.keepsSpans with
  | true =>
    obtain ⟨added, hadded⟩ := captured_take hspans hstep
    rw [hadded, Option.isSome_some]
  | false =>
    cases step with
    | clear => exact (Option.isSome_map ..).trans h
    | reset => exact (Option.isSome_map ..).trans h
    | _ => cases hstep

/-- Once spans can be captured, that is never given up. -/
theorem isSome_captured_run (h : p.tracing.captured.isSome = true) (steps : List Step) :
    (p.run steps).1.tracing.captured.isSome = true := by
  induction steps generalizing p with
  | nil => exact h
  | cons step steps ih => exact ih (isSome_captured_take h step)

end Kept

structure CapturesBy (p : Process) (configurations : List Configuration) : Prop where
  kept : ∀ spans, p.tracing.captured = some spans → ∀ more,
    (p.run more).1.tracing.captured.isSome = true ∧
      ((∀ step ∈ more, step.keepsSpans = true) →
        ∃ added, (p.run more).1.tracing.captured = some (spans ++ added))
  repeated : (p.take .configure).1.take .configure = p.take .configure
  captured : AskedFirst configurations → ∀ e : Errand, e.run.ending ≠ .pending →
    Tracing.enabled p.environment = true →
      ∃ span, (p.take (.call e)).1.tracing.spans = p.tracing.spans ++ [span] ∧
        span.name = "vss." ++ e.op.name
  uncaptured : ¬AskedFirst configurations → ∀ e : Errand,
    (p.take (.call e)).1.tracing.spans = p.tracing.spans

theorem take_configure_configure (p : Process) :
    (p.take .configure).1.take .configure = p.take .configure := by
  simp only [take, p.tracing.configure_configure]

/-- If the first configuration asked for it, an operation leaves one more span. -/
theorem Follows.spans_call (h : p.Follows configurations) (hasked : AskedFirst configurations)
    (henabled : Tracing.enabled p.environment = true) (e : Errand) :
    ∃ span, (p.take (.call e)).1.tracing.spans = p.tracing.spans ++ [span] ∧
      span.name = "vss." ++ e.op.name := by
  obtain ⟨c, hc, hcaptures⟩ := hasked
  have hinstalled := h.installed
  rw [hc, Option.map_some, Tracing.provider, hcaptures] at hinstalled
  have hsession : (p.session e).Captures (Tracing.spanService c.environment) :=
    ⟨henabled, hinstalled, h.captured c hc hcaptures⟩
  exact ⟨_, hsession.spans_call e.fractions e.op e.request e.reactions, rfl⟩

/-- Otherwise no span gets anywhere, whatever is asked for later. -/
theorem Follows.spans_call_of_not (h : p.Follows configurations)
    (hasked : ¬AskedFirst configurations) (e : Errand) :
    (p.take (.call e)).1.tracing = p.tracing := by
  have hinstalled := h.installed
  rw [tracing_take_call]
  cases hfirst : first? configurations with
  | none =>
    rw [hfirst, Option.map_none] at hinstalled
    simp [Tracing.record, Tracing.finish, hinstalled]
  | some c =>
    have hcaptures : Tracing.captures c.environment = false :=
      Bool.eq_false_iff.mpr fun h => hasked ⟨c, hfirst, h⟩
    rw [hfirst, Option.map_some, Tracing.provider, hcaptures] at hinstalled
    simp [Tracing.record, Tracing.finish, hinstalled]

/-- Whatever happened in a process: captured spans stay until they are cleared, a
configuration is not changed by being repeated, and every operation that ends while
tracing is on leaves one more span if the first configuration that found it on asked
for that. Otherwise no operation ever leaves one. -/
theorem capturesBy_of_run (environment : Environment) (steps : List Step) :
    ((fresh environment).run steps).1.CapturesBy ((fresh environment).run steps).2 := by
  have hfollows := (follows_fresh environment).run steps
  rw [List.nil_append] at hfollows
  exact {
    kept := fun spans hspans more =>
      ⟨isSome_captured_run (by rw [hspans, Option.isSome_some]) more, captured_run hspans⟩
    repeated := take_configure_configure _
    captured := fun hasked e _ henabled => hfollows.spans_call hasked henabled e
    uncaptured := fun hasked e => congrArg Tracing.spans (hfollows.spans_call_of_not hasked e) }

def brokenRead : Errand where
  client := ⟨"http://store", .never, jsonContentType⟩
  transport := .custom 0
  fractions := fun _ => .zero
  usage := .none
  op := .getObject
  request := ⟨"store", "k"⟩
  reactions := [.failure (.fault ⟨.system, "reset"⟩)]

theorem brokenRead_ended : brokenRead.run.ending ≠ .pending := nofun

/-- Capture was asked for first, and is not given up by being switched off later. -/
theorem capturesBy_of_run_switched_off :
    let done := (fresh Session.switchedOn).run
      [.configure, .reset, .set Tracing.captureSwitch "0", .configure]
    Tracing.captures done.1.environment = false ∧ brokenRead.run.ending ≠ .pending ∧
      ∃ span, (done.1.take (.call brokenRead)).1.tracing.spans = [span] ∧
        span.name = "vss.get_object" := by
  intro done
  have hasked : AskedFirst done.2 :=
    ⟨⟨Session.switchedOn, true⟩, by decide +kernel, by decide +kernel⟩
  have henabled : Tracing.enabled done.1.environment = true := by decide +kernel
  have hnone : done.1.tracing.spans = [] := by decide +kernel
  obtain ⟨span, hspans, hname⟩ := (capturesBy_of_run Session.switchedOn
    [.configure, .reset, .set Tracing.captureSwitch "0", .configure]).captured hasked brokenRead
      brokenRead_ended henabled
  rw [show _ = [] from hnone, List.nil_append] at hspans
  exact ⟨by decide +kernel, brokenRead_ended, span, hspans, hname⟩

/-- Capture that is asked for after a reset comes too late, though the configuration
answers that tracing is on: no span is left by an operation that ends. -/
theorem uncaptured_after_reset :
    let done := (fresh [(Tracing.enabledSwitch, "1")]).run
      [.configure, .reset, .set Tracing.captureSwitch "1", .configure]
    (∃ c, done.2.getLast? = some c ∧ c.answer = true ∧ Tracing.captures c.environment = true ∧
        Tracing.enabled done.1.environment = true) ∧
      brokenRead.run.ending ≠ .pending ∧
      (done.1.take (.call brokenRead)).1.tracing.spans = [] := by
  intro done
  refine ⟨⟨⟨[(Tracing.captureSwitch, "1"), (Tracing.enabledSwitch, "1")], true⟩, ?_, rfl, ?_, ?_⟩,
    brokenRead_ended, ?_⟩
  all_goals decide +kernel

end Process

end VersionedStore
