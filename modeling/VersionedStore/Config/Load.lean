import VersionedStore.Config.Basic
import VersionedStore.Environment
import VersionedStore.Failure.Notice
import VersionedStore.Text.Digit

/-!
The configuration that an environment asks for. A blank variable counts as not
set. A variable that is set and cannot be read is an error, never a default;
so is an address that is missing. The address is looked for first, then the
variables are read in a fixed order, and last the bounds are checked together.
-/

namespace VersionedStore

open VersionedStore.Field

inductive ConfigError where
  | noBaseUrl (switch : String)
  | notNumber (switch given : String)
  | notInteger (switch given : String)
  | invalid (issues : List Issue)
  deriving DecidableEq, Repr

namespace ConfigError

def count (issues : List Issue) : String :=
  issues.length.repr ++ (if issues.length = 1 then " validation error" else " validation errors")

/-- An error in words; the issues of a configuration are not spelled out. -/
def message : ConfigError → String
  | .noBaseUrl switch =>
    "VSS endpoint not configured. Set " ++ switch ++ " environment variable."
  | .notNumber switch given => switch ++ " must be a number, got '" ++ given ++ "'"
  | .notInteger switch given => switch ++ " must be an integer, got '" ++ given ++ "'"
  | .invalid issues =>
    "Invalid VSS client configuration: " ++ count issues ++ " for " ++ Config.title

end ConfigError

namespace Config

def baseUrlSwitch : String := "VSS_BASE_URL"
def timeoutSwitch : String := "VSS_TIMEOUT_SECONDS"
def maxAttemptsSwitch : String := "VSS_MAX_ATTEMPTS"
def baseDelaySwitch : String := "VSS_RETRY_BASE_DELAY_SECONDS"
def maxDelaySwitch : String := "VSS_RETRY_MAX_DELAY_SECONDS"
def maxJitterSwitch : String := "VSS_RETRY_MAX_JITTER_SECONDS"

def maxDigits : Nat := 4300

/-- The text of a variable without blanks around it. -/
def setting (env : Environment) (switch : String) : List Char :=
  Text.trim Text.isBlank ((env.get? switch).getD "").toList

def number? (env : Environment) (switch : String) : Except ConfigError (Option Raw) :=
  match setting env switch with
  | [] => .ok none
  | cs =>
    match Number.real? Text.digit? cs with
    | some x => .ok (some (.real (.ofNumeral x)))
    | none => .error (.notNumber switch (String.ofList cs))

def integer? (env : Environment) (switch : String) : Except ConfigError (Option Raw) :=
  match setting env switch with
  | [] => .ok none
  | cs =>
    match Number.integer? Text.digit? cs with
    | some (negative, ds) =>
      if ds.length ≤ maxDigits then
        .ok (some (.integer (Number.signed negative (Number.ofDigits ds))))
      else .error (.notInteger switch (String.ofList cs))
    | none => .error (.notInteger switch (String.ofList cs))

def members (env : Environment) : Except ConfigError (List (String × Raw)) := do
  let url := setting env baseUrlSwitch
  if url = [] then throw (.noBaseUrl baseUrlSwitch)
  let timeout ← number? env timeoutSwitch
  let maxAttempts ← integer? env maxAttemptsSwitch
  let baseDelay ← number? env baseDelaySwitch
  let maxDelay ← number? env maxDelaySwitch
  let maxJitter ← number? env maxJitterSwitch
  let optional := [("timeout_seconds", timeout), ("max_attempts", maxAttempts),
    ("base_delay_seconds", baseDelay), ("max_delay_seconds", maxDelay),
    ("max_jitter_seconds", maxJitter)]
  return ("base_url", .text (BaseUrl.withoutSlashes (String.ofList url))) ::
    optional.filterMap fun (name, r) => r.map fun r => (name, r)

def ofEnvironment (env : Environment) : Except ConfigError Config := do
  (readMembers (← members env)).mapError .invalid

def loaded (c : Config) : Notice := .configLoaded c.maxAttempts c.timeout

end Config

end VersionedStore
