import VersionedStore.Failure.Notice

/-!
How an answer that is no success becomes an error. The status alone decides
whether the client or the store is at fault. The body, if it is a readable
report, only refines the errors of the client and adds the store's own words.
-/

namespace VersionedStore

def isSuccess (status : Int) : Bool := 200 ≤ status && status < 300

def blamesClient (status : Int) : Bool := 400 ≤ status && status < 500

def ErrorCode.ofInt (n : Int) : Except Fault ErrorCode :=
  match ErrorCode.ofInt? n with
  | some c => .ok c
  | none => .error ⟨.badValue, n.repr ++ " is not a valid ErrorCode"⟩

namespace RefusalGroup

def ofCode : Option ErrorCode → RefusalGroup
  | some .conflict => .conflict
  | some .invalidRequest => .invalidRequest
  | some .noSuchKey => .noSuchKey
  | some .auth => .auth
  | _ => .client

end RefusalGroup

namespace Refusal

/-- The report in the body of a refusal. An empty body holds none; a body that
is no report is worth a notice. -/
def report? (body : ByteArray) : Option ErrorResponse × List Notice :=
  if body.isEmpty then (none, [])
  else
    match MessageType.errorResponse.decode body with
    | .ok r => (some r, [])
    | .error _ => (none, [.undecodableRefusal body.size])

def group (status : Int) (report : Option ErrorResponse) : RefusalGroup :=
  if blamesClient status then RefusalGroup.ofCode (report.map (·.errorCode)) else .server

/-- A refusal in words, with the store's own words at the end if it has any. -/
def message (status : Int) (report : Option ErrorResponse) : String :=
  let blame := if blamesClient status then "Client error" else "Server error"
  let words := (report.map (·.message)).getD ""
  blame ++ ": HTTP " ++ status.repr ++ (if words = "" then "" else ": " ++ words)

end Refusal

namespace StoreError

def ofReport (operation : Option String) (status : Int) (body : ByteArray)
    (report : Option ErrorResponse) : StoreError where
  message := Refusal.message status report
  operation := operation
  failure := .refused (Refusal.group status report)
    ⟨status, body, report.map (·.errorCode), report.map (·.message)⟩

def ofRefusal (operation : Option String) (status : Int) (body : ByteArray) :
    StoreError × List Notice :=
  let (report, notices) := Refusal.report? body
  (ofReport operation status body report, notices)

end StoreError

end VersionedStore
