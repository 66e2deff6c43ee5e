import VersionedStore.Url.Basic
import VersionedStore.Retry.Loop

/-!
The ways in which a request gets to a store. A caller's own transport hands the
request over as it is and tells of its failures itself. An HTTP transport
normalises the URL, refuses what it cannot send, and turns the failures of the
network into transport errors; it closes the connection that it opened and
leaves a borrowed one open.
-/

namespace VersionedStore

structure Sending where
  url : String
  contentType : String
  body : ByteArray
  deriving DecidableEq

structure Response where
  status : Int
  body : ByteArray
  deriving DecidableEq

inductive Reaction where
  | answer (response : Response)
  | failure (r : Raised)
  deriving DecidableEq

/-- An HTTP connection: whether the transport opened it itself, whether it has
been closed, and how long it waits. -/
structure Connection where
  owned : Bool
  closed : Bool
  timeout : Binary64
  deriving DecidableEq

/-- A caller's own transport counts how often it was closed. -/
inductive Transport where
  | custom (closes : Nat)
  | http (connection : Connection)
  deriving DecidableEq

namespace Connection

def borrowedTimeout : Binary64 := .ofInt 5

def opened (timeout : Binary64) : Connection := ⟨true, false, timeout⟩

def borrowed : Connection := ⟨false, false, borrowedTimeout⟩

end Connection

/-- A URL that tells no host is asked for at the root of the connection. -/
def Url.rooted (u : Url) : List Char :=
  if u.isAbsolute then u.toText else '/' :: u.target.dropWhile (· == '/')

namespace Transport

def closedMessage : String := "Cannot send a request, as the client has been closed."

/-- What keeps a URL from naming the host that a request is for, if anything
does. The host has to be readable and has to be ASCII on the wire. -/
def hostFault? (u : Url) : Option Fault :=
  if !u.isAbsolute then none
  else
    match HostName.toUnicode u.host with
    | .error f => some f.toFault
    | .ok _ => (Text.asciiFault? u.netloc).map fun m => ⟨.unencodableText, m⟩

def prepareHttp (c : Connection) (s : Sending) : Except Fault (Url × Sending) := do
  let url ← (Url.ofText s.url.toList).mapError fun f => ⟨.badUrl, f.message⟩
  if let some m := Text.asciiFault? s.contentType.toList then
    throw ⟨.unencodableText, m⟩
  if let some f := hostFault? url then throw f
  if c.closed then throw ⟨.brokenState, closedMessage⟩
  return (url, { s with url := String.ofList url.rooted })

def failHttp (f : Fault) : Attempt Response :=
  if f.kind.isTimeout then
    ⟨.error (.error ⟨"Timeout: " ++ f.text, none, .transport (some (.fault f))⟩),
      [.requestTimedOut f.kind]⟩
  else if f.kind.isNetwork then
    ⟨.error (.error ⟨"Connection error: " ++ f.text, none, .transport (some (.fault f))⟩),
      [.requestFailed f.kind]⟩
  else ⟨.error (.fault f), []⟩

/-- What is wrong with a host in brackets, and with what follows as the port,
when the host ends at the first closing bracket. A zone may hold one. -/
def bracketFault? : List Char → Option String
  | '[' :: cs =>
    let (host, rest) := cs.span (· != ']')
    let port := rest.drop 1
    if port != [] && port.head? != some ':' then some "Invalid IPv6 URL"
    else if Url.isIPv6 host then none
    else
      some (Text.quoted (String.ofList host) ++ " does not appear to be an IPv4 or IPv6 address")
  | _ => none

/-- What is wrong with a URL when an answer is to be filed under it: nobody can
tell whose answer it is. -/
def answerFault? (u : Url) : Option Fault :=
  (if u.isAbsolute then bracketFault? u.netloc
   else some ("unknown url type: " ++ Text.quoted (String.ofList u.rooted))).map (⟨.badValue, ·⟩)

/-- What comes back over an HTTP connection. An answer that cannot be filed
under its URL is lost. -/
def receiveHttp (url : Url) : Reaction → Attempt Response
  | .answer r =>
    match answerFault? url with
    | none => ⟨.ok r, []⟩
    | some f => ⟨.error (.fault f), []⟩
  | .failure (.fault f) => failHttp f
  | .failure (.error e) => ⟨.error (.error e), []⟩

def receiveCustom : Reaction → Attempt Response
  | .answer r => ⟨.ok r, []⟩
  | .failure r => ⟨.error r, []⟩

/-- A request as the far side sees it, and what comes back for each of its
reactions; or the fault that keeps the request from being sent. -/
def prepare (t : Transport) (s : Sending) :
    Except Fault (Sending × (Reaction → Attempt Response)) :=
  match t with
  | .custom _ => .ok (s, receiveCustom)
  | .http c => (prepareHttp c s).map fun (url, s) => (s, receiveHttp url)

def close : Transport → Transport
  | .custom closes => .custom (closes + 1)
  | .http c => .http { c with closed := c.closed || c.owned }

def disconnect : Transport → Transport
  | .custom closes => .custom closes
  | .http c => .http { c with closed := true }

end Transport

end VersionedStore
