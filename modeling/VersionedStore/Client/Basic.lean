import VersionedStore.Client.Operation
import VersionedStore.Transport.Basic
import VersionedStore.Config.Basic
import VersionedStore.Failure.Refusal

/-!
A client of a store. Every operation is one request and one answer; only
writing is tried again, as its policy tells. An answer is a reply only if its
status is one of success, its body is a reply, and the reply holds what the
store has promised.
-/

namespace VersionedStore

structure Client where
  baseUrl : String
  policy : RetryPolicy
  contentType : String

namespace Client

def of (baseUrl : String) (policy : RetryPolicy) (contentType : String) : Except Fault Client :=
  (BaseUrl.check baseUrl).map fun url => ⟨url, policy, contentType⟩

/-- A client with the address and the policy of a configuration, and a transport that
waits as long as the configuration says. -/
def ofConfig (c : Config) : Except Fault (Client × Transport) := do
  let policy ← c.builtPolicy
  let client ← of c.baseUrl policy jsonContentType
  return (client, .http (.opened c.timeout))

def sending (c : Client) (op : Operation) (request : op.Request) : Sending :=
  ⟨c.baseUrl ++ op.path, c.contentType, op.request.encode request⟩

def malformed (op : Operation) (r : Response) (e : DecodeError) : StoreError :=
  ⟨"Failed to decode " ++ op.response.name, some op.name,
    .malformed ⟨r.status, r.body, some (.undecodable e)⟩⟩

def incomplete (part : String) (r : Response) : StoreError :=
  ⟨"VSS Server API Violation, expected " ++ part ++ " in GetObjectResponse but found none",
    some Operation.getObject.name, .contractViolation ⟨r.status, r.body, none⟩⟩

/-- A reply, if it holds what the store has promised: an object that is there
comes with its value, and the value with its version. -/
def promised (r : Response) : (op : Operation) → op.Reply → Except StoreError op.Reply
  | .getObject, reply =>
    match reply.value with
    | none => .error (incomplete "value" r)
    | some kv =>
      match kv.version with
      | none => .error (incomplete "version" r)
      | some _ => .ok reply
  | .putObject, reply => .ok reply
  | .deleteObject, reply => .ok reply
  | .listKeyVersions, reply => .ok reply

def accept (op : Operation) (r : Response) : Except StoreError op.Reply :=
  match op.response.decode r.body with
  | .error e => .error (malformed op r e)
  | .ok reply => promised r op reply

def refuse (op : Operation) (r : Response) : StoreError × List Notice :=
  let (e, notices) := StoreError.ofRefusal (some op.name) r.status r.body
  (e, notices ++ [.callFailed op.name e.text])

/-- A failure on the way, with the name of the operation that it kept from its
end. -/
def named (op : Operation) : Raised → Raised
  | .error e =>
    match e.failure with
    | .transport _ => .error (e.during op.name)
    | _ => .error e
  | .fault f => .fault f

def attempt (op : Operation) (received : Attempt Response) : Attempt op.Reply :=
  match received.outcome with
  | .error r => ⟨.error (named op r), received.notices⟩
  | .ok r =>
    if isSuccess r.status then ⟨(accept op r).mapError .error, received.notices⟩
    else
      let (e, notices) := refuse op r
      ⟨.error (.error e), received.notices ++ notices⟩

def once {α : Type} (usage : Usage) : List (Attempt α) → Run α
  | [] => ⟨0, [], [], [], usage, .pending⟩
  | a :: _ =>
    ⟨1, [], [], a.notices, usage,
      match a.outcome with
      | .ok x => .returned x
      | .error r => .raised r⟩

def run {α : Type} (c : Client) (fractions : Fractions) (usage : Usage) (op : Operation)
    (tape : List (Attempt α)) : Run α :=
  match op with
  | .putObject => Retry.run c.policy fractions usage tape
  | _ => once usage tape

end Client

/-- An operation as it went: the run of its attempts, and the requests that the
far side saw. -/
structure Call (op : Operation) where
  run : Run op.Reply
  sends : List Sending

def Client.call (c : Client) (t : Transport) (fractions : Fractions) (usage : Usage)
    (op : Operation) (request : op.Request) (reactions : List Reaction) : Call op :=
  match t.prepare (c.sending op request) with
  | .error f => ⟨c.run fractions usage op [⟨.error (.fault f), []⟩], []⟩
  | .ok (sent, receive) =>
    let run := c.run fractions usage op (reactions.map fun r => Client.attempt op (receive r))
    ⟨run, List.replicate run.attempts sent⟩

end VersionedStore
