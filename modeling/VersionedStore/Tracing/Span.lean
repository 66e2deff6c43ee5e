import VersionedStore.Client.Operation
import VersionedStore.Failure.StoreError
import VersionedStore.Sha256
import VersionedStore.Text.Hex

/-!
Spans: what tracing tells about an operation. A key appears only as its digest,
items only as their number, and an error only by its class, kind and status,
apart from the description that the status of the span carries.
-/

namespace VersionedStore

inductive AttributeValue where
  | text (s : String)
  | number (n : Int)
  | flag (b : Bool)
  deriving DecidableEq, Repr

structure Span where
  name : String
  attributes : List (String × AttributeValue)
  failure : Option String
  service : String
  deriving DecidableEq, Repr

namespace Span

def started (service name : String) : Span := ⟨name, [], none, service⟩

/-- An attribute takes the place of one that has its name already. -/
def setAttribute (s : Span) (name : String) (value : AttributeValue) : Span :=
  { s with attributes := s.attributes.filter (fun a => a.1 != name) ++ [(name, value)] }

def setAttributes (s : Span) (attributes : List (String × AttributeValue)) : Span :=
  attributes.foldl (fun s a => s.setAttribute a.1 a.2) s

/-- The last error that is set is the one that stays. -/
def setError (s : Span) (description : String) : Span := { s with failure := some description }

def keyDigest (key : String) : String := Text.hex (Sha256.digest key.toUTF8.data.toList)

def storeAttribute (storeId : String) : List (String × AttributeValue) :=
  if storeId = "" then [] else [("vss.store_id", .text storeId)]

def keyAttribute (key : String) : List (String × AttributeValue) :=
  [("vss.key_sha256", .text (keyDigest key))]

def requestAttributes : (op : Operation) → op.Request → List (String × AttributeValue)
  | .getObject, m => storeAttribute m.storeId ++ keyAttribute m.key
  | .putObject, m =>
    storeAttribute m.storeId ++
      [("vss.transaction_item_count", .number m.transactionItems.length),
        ("vss.delete_item_count", .number m.deleteItems.length)]
  | .deleteObject, m => storeAttribute m.storeId ++ keyAttribute m.key
  | .listKeyVersions, m => storeAttribute m.storeId

def failureAttributes (r : Raised) : List (String × AttributeValue) :=
  [("error", .flag true), ("error.type", .text r.name)] ++
    match r with
    | .error e =>
      ("vss.error_kind", .text e.kind.name) ::
        (e.status?.map fun n => ("http.status_code", AttributeValue.number n)).toList
    | .fault _ => []

end Span

end VersionedStore
