import VersionedStore.Failure.StoreError
import VersionedStore.Number.Shortest

/-!
Notices that the client leaves in its log. A notice names an event and carries
only what its line shows, so that neither requests nor successful bodies can
reach the log.
-/

namespace VersionedStore

inductive Level where
  | debug
  | info
  | warning
  deriving DecidableEq, Repr

def Level.name : Level → String
  | .debug => "DEBUG"
  | .info => "INFO"
  | .warning => "WARNING"

/-- An event that is worth a line in the log. An error stands in it in words. -/
inductive Notice where
  | undecodableRefusal (size : Nat)
  | gaveUp (attempts : Nat) (error : String) (kind : ErrorKind)
  | retrying (attempt : Nat) (error : String) (kind : ErrorKind) (delay : Binary64)
  | requestTimedOut (kind : FaultKind)
  | requestFailed (kind : FaultKind)
  | callFailed (operation error : String)
  | configLoaded (maxAttempts : Int) (timeout : Binary64)
  | tracingDisabled (switch : String)
  | tracingConfigured (service exporter : String)
  deriving DecidableEq

namespace Notice

def level : Notice → Level
  | .undecodableRefusal _ | .callFailed .. | .configLoaded .. | .tracingDisabled _ => .debug
  | .tracingConfigured .. => .info
  | .gaveUp .. | .retrying .. | .requestTimedOut _ | .requestFailed _ => .warning

def source : Notice → String
  | .undecodableRefusal _ => "vss_client.errors"
  | .gaveUp .. | .retrying .. => "vss_client.retry"
  | .requestTimedOut _ | .requestFailed _ => "vss_client.transport"
  | .callFailed .. => "vss_client.client"
  | .configLoaded .. => "vss_client.config"
  | .tracingDisabled _ | .tracingConfigured .. => "vss_client.tracing"

def text : Notice → String
  | .undecodableRefusal size =>
    "Error body is not a decodable ErrorResponse (" ++ size.repr ++ " bytes)"
  | .gaveUp attempts error kind =>
    "Giving up after " ++ attempts.repr ++ " attempts: " ++ error ++
      " (kind=" ++ kind.name ++ ")"
  | .retrying attempt error kind delay =>
    "Attempt " ++ attempt.repr ++ " failed: " ++ error ++ " (kind=" ++ kind.name ++
      "), retrying in " ++ delay.fixed 3 ++ "s"
  | .requestTimedOut kind => "VSS request timed out: " ++ kind.name
  | .requestFailed kind => "VSS request failed: " ++ kind.name
  | .callFailed operation error => operation ++ " failed: " ++ error
  | .configLoaded maxAttempts timeout =>
    "Loaded VSS config: max_attempts=" ++ maxAttempts.repr ++ ", timeout=" ++
      timeout.fixed 1 ++ "s"
  | .tracingDisabled switch => "VSS tracing disabled (" ++ switch ++ " not set)"
  | .tracingConfigured service exporter =>
    "VSS tracing configured: service=" ++ service ++ ", exporter=" ++ exporter

def line (n : Notice) : String := n.level.name ++ " " ++ n.source ++ ": " ++ n.text

end Notice

end VersionedStore
