import VersionedStore.Failure.Fault
import VersionedStore.Message.Codec

/-!
The errors of a store's client. An error tells what failed, during which
operation, and how: the call got no status at all, the store refused it with a
status, or it accepted the call and answered with something that is no proper
response. The status and the body of an answer are kept as they came.
-/

namespace VersionedStore

inductive Cause where
  | fault (f : Fault)
  | undecodable (e : DecodeError)
  deriving DecidableEq, Repr

namespace Cause

def name : Cause → String
  | .fault f => f.kind.name
  | .undecodable _ => "DecodeError"

def text : Cause → String
  | .fault f => f.text
  | .undecodable e => e.message

end Cause

inductive RefusalGroup where
  | general
  | client
  | conflict
  | invalidRequest
  | noSuchKey
  | auth
  | server
  deriving DecidableEq, Repr

/-- An answer with a status that is no success, and what its body says. -/
structure Refusal where
  status : Int
  body : ByteArray
  errorCode : Option ErrorCode
  serverMessage : Option String
  deriving DecidableEq

/-- An answer with a status of success that is no proper response. -/
structure BadAnswer where
  status : Int
  body : ByteArray
  cause : Option Cause
  deriving DecidableEq

inductive Failure where
  | unclassified
  | transport (cause : Option Cause)
  | refused (group : RefusalGroup) (refusal : Refusal)
  | malformed (answer : BadAnswer)
  | contractViolation (answer : BadAnswer)
  deriving DecidableEq

structure StoreError where
  message : String
  operation : Option String
  failure : Failure
  deriving DecidableEq

inductive ErrorClass where
  | store
  | transport
  | response
  | client
  | conflict
  | invalidRequest
  | noSuchKey
  | auth
  | server
  | malformed
  | contractViolation
  deriving DecidableEq, Repr

namespace ErrorClass

def name : ErrorClass → String
  | .store => "VssError"
  | .transport => "VssTransportError"
  | .response => "VssResponseError"
  | .client => "VssClientError"
  | .conflict => "ConflictError"
  | .invalidRequest => "InvalidRequestError"
  | .noSuchKey => "NoSuchKeyError"
  | .auth => "AuthError"
  | .server => "VssServerError"
  | .malformed => "MalformedResponseError"
  | .contractViolation => "ServerContractViolationError"

def lineage : ErrorClass → List ErrorClass
  | .store => [.store]
  | .transport => [.transport, .store]
  | .response => [.response, .store]
  | .client => [.client, .response, .store]
  | .conflict => [.conflict, .client, .response, .store]
  | .invalidRequest => [.invalidRequest, .client, .response, .store]
  | .noSuchKey => [.noSuchKey, .client, .response, .store]
  | .auth => [.auth, .client, .response, .store]
  | .server => [.server, .response, .store]
  | .malformed => [.malformed, .store]
  | .contractViolation => [.contractViolation, .malformed, .store]

def within (c d : ErrorClass) : Bool := c.lineage.contains d

end ErrorClass

inductive ErrorKind where
  | transport
  | client
  | server
  | malformedResponse
  | contractViolation
  | unknown
  deriving DecidableEq, Repr

def ErrorKind.name : ErrorKind → String
  | .transport => "transport"
  | .client => "client"
  | .server => "server"
  | .malformedResponse => "malformed_response"
  | .contractViolation => "contract_violation"
  | .unknown => "unknown"

namespace RefusalGroup

def errorClass : RefusalGroup → ErrorClass
  | .general => .response
  | .client => .client
  | .conflict => .conflict
  | .invalidRequest => .invalidRequest
  | .noSuchKey => .noSuchKey
  | .auth => .auth
  | .server => .server

def kind : RefusalGroup → ErrorKind
  | .general => .unknown
  | .server => .server
  | _ => .client

end RefusalGroup

namespace Failure

def errorClass : Failure → ErrorClass
  | .unclassified => .store
  | .transport _ => .transport
  | .refused group _ => group.errorClass
  | .malformed _ => .malformed
  | .contractViolation _ => .contractViolation

def kind : Failure → ErrorKind
  | .unclassified => .unknown
  | .transport _ => .transport
  | .refused group _ => group.kind
  | .malformed _ => .malformedResponse
  | .contractViolation _ => .contractViolation

/-- Whether another attempt may succeed: the call did not get through, or the
store had a problem of its own. -/
def retryable : Failure → Bool
  | .transport _ => true
  | .refused group _ => group == .server
  | _ => false

def status? : Failure → Option Int
  | .refused _ r => some r.status
  | .malformed a | .contractViolation a => some a.status
  | _ => none

def body? : Failure → Option ByteArray
  | .refused _ r => some r.body
  | .malformed a | .contractViolation a => some a.body
  | _ => none

end Failure

namespace StoreError

def transportMessage : String := "Transport failure"

def malformedMessage : String := "Malformed response"

def errorClass (e : StoreError) : ErrorClass := e.failure.errorClass

def kind (e : StoreError) : ErrorKind := e.failure.kind

def retryable (e : StoreError) : Bool := e.failure.retryable

def status? (e : StoreError) : Option Int := e.failure.status?

def isA (e : StoreError) (c : ErrorClass) : Bool := e.errorClass.within c

/-- An error in words: the message, the operation if it has a name, and the
status if the call was refused with one. -/
def text (e : StoreError) : String :=
  let during :=
    match e.operation with
    | some name => if name = "" then "" else " operation=" ++ name
    | none => ""
  let answered :=
    match e.failure with
    | .refused _ r => " status=" ++ r.status.repr
    | _ => ""
  e.message ++ during ++ answered

/-- An error of a named operation. One that has a name already keeps it. -/
def during (name : String) (e : StoreError) : StoreError :=
  { e with operation := e.operation.or (some name) }

end StoreError

/-- What a call may end with instead of a response. -/
inductive Raised where
  | error (e : StoreError)
  | fault (f : Fault)
  deriving DecidableEq

namespace Raised

def name : Raised → String
  | .error e => e.errorClass.name
  | .fault f => f.kind.name

def text : Raised → String
  | .error e => e.text
  | .fault f => f.text

end Raised

end VersionedStore
