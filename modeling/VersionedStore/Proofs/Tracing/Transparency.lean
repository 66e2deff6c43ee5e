import VersionedStore.Proofs.Tracing.Attributes
import VersionedStore.Retry.Standard

/-!
Tracing watches the operations of a session and does not touch them. Sessions
that differ in nothing but their tracing and their environment do the same, step
by step, whatever is switched, configured or cleared between their operations.
A session that captures spans gains one for every operation; one with tracing
switched off gains none.
-/

namespace VersionedStore

namespace Session

/-- Sessions that differ at most in their tracing and in their environment. -/
structure Twins (s s' : Session) : Prop where
  client : s.client = s'.client
  transport : s.transport = s'.transport
  usage : s.usage = s'.usage

namespace Twins

variable {s s' s'' : Session}

theorem trans (h : Twins s s') (h' : Twins s' s'') : Twins s s'' :=
  ⟨h.client.trans h'.client, h.transport.trans h'.transport, h.usage.trans h'.usage⟩

/-- An operation is the same for twins, and leaves them twins. -/
theorem call (h : Twins s s') (fractions : Fractions) (op : Operation) (m : op.Request)
    (reactions : List Reaction) :
    (s.call fractions op m reactions).2 = (s'.call fractions op m reactions).2 ∧
      Twins (s.call fractions op m reactions).1 (s'.call fractions op m reactions).1 := by
  obtain ⟨hclient, htransport, husage⟩ := h
  have hcall : s.client.call s.transport fractions s.usage op m reactions =
      s'.client.call s'.transport fractions s'.usage op m reactions := by
    rw [hclient, htransport, husage]
  rw [call_eq, call_eq]
  exact ⟨hcall, hclient, htransport, congrArg (fun c : Call op => c.run.usage) hcall⟩

end Twins

inductive Step where
  | call (fractions : Fractions) (op : Operation) (request : op.Request)
    (reactions : List Reaction)
  | close
  | configure
  | clear
  | reset
  | set (name value : String)
  | unset (name : String)

def Step.isOwn : Step → Bool
  | .call .. | .close => true
  | _ => false

structure Called where
  op : Operation
  request : op.Request
  call : Call op

def Called.span (service : String) (c : Called) : Span :=
  Span.of service c.op c.request c.call.run.failure?

def take (s : Session) : Step → Session × Option Called
  | .call fractions op request reactions =>
    let (after, c) := s.call fractions op request reactions
    (after, some ⟨op, request, c⟩)
  | .close => (s.close, none)
  | .configure => ({ s with tracing := (s.tracing.configure s.environment).1 }, none)
  | .clear => ({ s with tracing := s.tracing.clear }, none)
  | .reset => ({ s with tracing := s.tracing.reset }, none)
  | .set name value => ({ s with environment := s.environment.set name value }, none)
  | .unset name => ({ s with environment := s.environment.unset name }, none)

def run (s : Session) : List Step → Session × List Called
  | [] => (s, [])
  | step :: steps =>
    let (after, called) := s.take step
    let (final, rest) := after.run steps
    (final, called.toList ++ rest)

section

variable {s s' : Session} {step : Step}

theorem run_cons (s : Session) (step : Step) (steps : List Step) :
    s.run (step :: steps) = (((s.take step).1.run steps).1,
      (s.take step).2.toList ++ ((s.take step).1.run steps).2) := rfl

/-- Twins go the same way at a step of their own, and stay twins. -/
theorem Twins.take (h : Twins s s') (hstep : step.isOwn = true) :
    (s.take step).2 = (s'.take step).2 ∧ Twins (s.take step).1 (s'.take step).1 := by
  cases step with
  | call fractions op m reactions =>
    obtain ⟨hcall, htwins⟩ := h.call fractions op m reactions
    refine ⟨?_, htwins⟩
    have hcalled : some (Called.mk op m (s.call fractions op m reactions).2) =
        some (Called.mk op m (s'.call fractions op m reactions).2) := by rw [hcall]
    exact hcalled
  | close => exact ⟨rfl, h.client, congrArg Transport.close h.transport, h.usage⟩
  | _ => cases hstep

/-- A step of tracing or of the environment calls nothing and leaves a twin. -/
theorem twins_take (s : Session) (hstep : step.isOwn = false) :
    (s.take step).2 = none ∧ Twins (s.take step).1 s := by
  cases step with
  | call fractions op m reactions => cases hstep
  | close => cases hstep
  | _ => exact ⟨rfl, rfl, rfl, rfl⟩

/-- Among twins, the steps of tracing and of the environment may be left out:
the operations are called alike, and the sessions stay twins. -/
theorem Twins.run (h : Twins s s') (steps : List Step) :
    (s.run steps).2 = (s'.run (steps.filter Step.isOwn)).2 ∧
      Twins (s.run steps).1 (s'.run (steps.filter Step.isOwn)).1 := by
  induction steps generalizing s s' with
  | nil => exact ⟨rfl, h⟩
  | cons step steps ih =>
    cases hown : step.isOwn with
    | true =>
      obtain ⟨hcalled, htwins⟩ := h.take hown
      obtain ⟨hrest, hfinal⟩ := ih htwins
      rw [List.filter_cons_of_pos hown, run_cons, run_cons]
      exact ⟨congrArg₂ (fun (c : Option Called) rest => c.toList ++ rest) hcalled hrest, hfinal⟩
    | false =>
      obtain ⟨hnone, htwins⟩ := s.twins_take hown
      obtain ⟨hrest, hfinal⟩ := ih (htwins.trans h)
      rw [List.filter_cons_of_neg (by simp [hown]), run_cons, hnone]
      exact ⟨hrest, hfinal⟩

variable {service : String}

/-- An operation that is not traced leaves no span. -/
theorem tracing_call_of_disabled (hoff : Tracing.enabled s.environment = false)
    (fractions : Fractions) (op : Operation) (m : op.Request) (reactions : List Reaction) :
    (s.call fractions op m reactions).1.tracing = s.tracing := by
  rw [tracing_call, Tracing.record, hoff]
  rfl

/-- An operation does not stop its session from capturing spans. -/
theorem Captures.call (h : s.Captures service) (fractions : Fractions) (op : Operation)
    (m : op.Request) (reactions : List Reaction) :
    (s.call fractions op m reactions).1.Captures service := by
  obtain ⟨henabled, hinstalled, hcaptured⟩ := h
  rw [call_eq]
  refine ⟨henabled, ?_, ?_⟩
  · simp [Tracing.record, Tracing.finish, henabled, hinstalled]
  · simp [Tracing.record, Tracing.finish, henabled, hinstalled, hcaptured]

/-- Fresh tracing that is configured in an environment that asks for spans and
for their capture captures them. -/
theorem captures_configure (hfresh : s.tracing = .initial)
    (henabled : Tracing.enabled s.environment = true)
    (hcaptures : Tracing.captures s.environment = true) :
    (s.take .configure).1.Captures (Tracing.spanService s.environment) := by
  refine ⟨henabled, ?_, ?_⟩ <;>
    simp [take, Tracing.configure, Tracing.ready, Tracing.provider, Tracing.initial, hfresh,
      henabled, hcaptures]

/-- As long as a session captures spans and nobody meddles with its tracing, its
spans are those of the operations that were called, one for each. -/
theorem Captures.spans_run (h : s.Captures service) {steps : List Step}
    (hsteps : ∀ step ∈ steps, step.isOwn = true) :
    (s.run steps).1.tracing.spans =
      s.tracing.spans ++ (s.run steps).2.map (Called.span service) := by
  induction steps generalizing s with
  | nil => exact (List.append_nil _).symm
  | cons step steps ih =>
    obtain ⟨hown, hrest⟩ := List.forall_mem_cons.mp hsteps
    rw [run_cons]
    cases step with
    | call fractions op m reactions =>
      have hspans := h.spans_call fractions op m reactions
      have hfinal := ih (h.call fractions op m reactions) hrest
      rw [hspans, List.append_assoc] at hfinal
      exact hfinal
    | close => exact ih ⟨h.enabled, h.installed, h.captured⟩ hrest
    | _ => cases hown

end

def working : Session :=
  ({ capturing with
      client := ⟨"http://store", .standard, jsonContentType⟩
      tracing := .initial }.take .configure).1

theorem captures_working : working.Captures (Tracing.spanService switchedOn) :=
  captures_configure rfl captures_capturing.enabled (by decide +kernel)

end Session

end VersionedStore
