import VersionedStore.Client.Basic
import VersionedStore.Tracing.Basic

/-!
A client at work: its transport, what its policy has used up, and the tracing
of its operations in the current environment. Tracing is put around an operation:
if the environment switches it on, the operation runs in the block of a span,
which is told about the request before and about the failure after, if there is one.
-/

namespace VersionedStore

structure Session where
  client : Client
  transport : Transport
  usage : Usage
  tracing : Tracing
  environment : Environment

def Run.failure? {α : Type} (r : Run α) : Option Raised :=
  match r.ending with
  | .raised e => some e
  | .policyRaised f => some (.fault f)
  | .returned _ | .pending => none

/-- A failure is looked at and raised again. -/
def Call.rethrowing {m : Type → Type} [Monad m] {op : Operation} (block : m (Call op))
    (look : Raised → m Unit) : m (Call op) := do
  let call ← block
  match call.run.failure? with
  | none => return call
  | some e =>
    look e
    return call

namespace Session

abbrev Spanned (α : Type) : Type := StateT Span (StateM Session) α

/-- A block with a span of its own, which the installed provider starts. The status
of the span repeats a failure that leaves the block; the span ends with the block,
however that is left. -/
def withSpan {op : Operation} (name : String) (block : Spanned (Call op)) :
    StateM Session (Call op) := do
  let provider := (← get).tracing.installed
  let describe (e : Raised) : Spanned Unit := modify (·.setError (e.name ++ ": " ++ e.text))
  let (call, span) ← (Call.rethrowing block describe).run (Tracing.start provider name)
  modify fun s => { s with tracing := s.tracing.finish provider span }
  return call

/-- An operation in the block of a span. The span is told about the request, and about
a failure as well, which is raised again. -/
def telling (op : Operation) (request : op.Request) (body : StateM Session (Call op)) :
    Spanned (Call op) := do
  modify (·.setAttribute "vss.operation" (.text op.name))
  modify (·.setAttributes (Span.requestAttributes op request))
  Call.rethrowing body fun e =>
    modify fun span => (span.setAttributes (Span.failureAttributes e)).setError e.name

def traced (op : Operation) (request : op.Request) (body : StateM Session (Call op)) :
    StateM Session (Call op) := do
  if Tracing.enabled (← get).environment then
    withSpan ("vss." ++ op.name) (telling op request body)
  else body

def untraced (fractions : Fractions) (op : Operation) (request : op.Request)
    (reactions : List Reaction) : StateM Session (Call op) := do
  let s ← get
  let call := s.client.call s.transport fractions s.usage op request reactions
  set { s with usage := call.run.usage }
  return call

def call (s : Session) (fractions : Fractions) (op : Operation) (request : op.Request)
    (reactions : List Reaction) : Session × Call op :=
  let (call, after) := (traced op request (untraced fractions op request reactions)).run s
  (after, call)

def close (s : Session) : Session := { s with transport := s.transport.close }

end Session

end VersionedStore
