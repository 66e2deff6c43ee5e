import VersionedStore.Tracing.Span
import VersionedStore.Environment
import VersionedStore.Failure.Notice
import VersionedStore.Text.Blank

/-!
Tracing of operations, switched on by the environment. A provider of spans is
installed once and stays; configuring again may build another one, which is
dropped. Captured spans are kept in one place for good, but only the installed
provider brings spans there, and only if it was built to do so.
-/

namespace VersionedStore

structure Provider where
  service : String
  captures : Bool
  deriving DecidableEq, Repr

/-- The state of tracing: whether it has been configured since the last reset,
the installed provider, and the captured spans if they are captured at all. -/
structure Tracing where
  configured : Bool
  installed : Option Provider
  captured : Option (List Span)
  deriving DecidableEq, Repr

namespace Tracing

def initial : Tracing := ⟨false, none, none⟩

def enabledSwitch : String := "VSS_OTEL_ENABLED"
def captureSwitch : String := "VSS_OTEL_TEST_CAPTURE"
def serviceSwitch : String := "VSS_OTEL_SERVICE_NAME"
def exporterSwitch : String := "VSS_OTEL_EXPORTER"

def setting (env : Environment) (switch default : String) : String :=
  String.ofList (Text.trim Text.isBlank ((env.get? switch).getD default).toList)

def isOn (env : Environment) (switch : String) : Bool :=
  ["1", "true", "yes"].contains ((setting env switch "").map Char.toLower)

def enabled (env : Environment) : Bool := isOn env enabledSwitch

def captures (env : Environment) : Bool := isOn env captureSwitch

def service (env : Environment) : String := setting env serviceSwitch "vss-client"

def exporter (env : Environment) : String :=
  if captures env then "in-memory" else setting env exporterSwitch "none"

def unknownService : String := "unknown_service:python3"

/-- The service that spans name; it is never blank. -/
def spanService (env : Environment) : String :=
  if service env = "" then unknownService else service env

def provider (env : Environment) : Provider := ⟨spanService env, captures env⟩

def ready (t : Tracing) (env : Environment) : Bool :=
  (t.captured.isSome && captures env) || t.configured

def configure (t : Tracing) (env : Environment) : Tracing × Bool × List Notice :=
  if !enabled env then (t, false, [.tracingDisabled enabledSwitch])
  else if t.ready env then (t, true, [])
  else
    ({ configured := true
       installed := t.installed.or (some (provider env))
       captured := if captures env then some [] else t.captured },
      true, [.tracingConfigured (service env) (exporter env)])

def spans (t : Tracing) : List Span := t.captured.getD []

def clear (t : Tracing) : Tracing := { t with captured := t.captured.map fun _ => [] }

/-- Tracing that may be configured again; what is installed stays. -/
def reset (t : Tracing) : Tracing := { t.clear with configured := false }

/-- Without a provider, spans go nowhere and name no service. -/
def serviceOf (provider : Option Provider) : String := (provider.map (·.service)).getD ""

def start (provider : Option Provider) (name : String) : Span := .started (serviceOf provider) name

/-- A span that has ended is captured if its provider was built to do so. -/
def finish (t : Tracing) (provider : Option Provider) (span : Span) : Tracing :=
  if (provider.map (·.captures)).getD false then
    { t with captured := t.captured.map (· ++ [span]) }
  else t

end Tracing

end VersionedStore
