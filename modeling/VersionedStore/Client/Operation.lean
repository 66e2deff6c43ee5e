import VersionedStore.Message.Basic

/-!
The operations of a store, each with its path below the address of the store
and with the messages that it exchanges.
-/

namespace VersionedStore

inductive Operation where
  | getObject
  | putObject
  | deleteObject
  | listKeyVersions
  deriving DecidableEq, Repr

namespace Operation

def name : Operation → String
  | .getObject => "get_object"
  | .putObject => "put_object"
  | .deleteObject => "delete_object"
  | .listKeyVersions => "list_key_versions"

def path : Operation → String
  | .getObject => "/getObject"
  | .putObject => "/putObjects"
  | .deleteObject => "/deleteObject"
  | .listKeyVersions => "/listKeyVersions"

def request : Operation → MessageType
  | .getObject => .getObjectRequest
  | .putObject => .putObjectRequest
  | .deleteObject => .deleteObjectRequest
  | .listKeyVersions => .listKeyVersionsRequest

def response : Operation → MessageType
  | .getObject => .getObjectResponse
  | .putObject => .putObjectResponse
  | .deleteObject => .deleteObjectResponse
  | .listKeyVersions => .listKeyVersionsResponse

abbrev Request (op : Operation) : Type := op.request.Body

abbrev Reply (op : Operation) : Type := op.response.Body

end Operation

end VersionedStore
