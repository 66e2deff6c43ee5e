import VersionedStore.Message.Basic
import VersionedStore.Field.Scalar
import VersionedStore.Field.Record

/-!
The fields of each message type: how a message is built from raw values, and
which raw values it is written as. Names that are not fields are ignored.
-/

namespace VersionedStore

open VersionedStore.Field

def maxWord : Int := 0x7fffffffffffffff

/-- An error code is taken like an integer; whatever is no integer is no code. -/
def ErrorCode.read (r : Raw) : Checked ErrorCode :=
  match integer r with
  | .error _ => fail .notMember
  | .ok n =>
    if n < -maxWord - 1 ∨ maxWord < n then fail .integerSize
    else
      match ErrorCode.ofInt? n with
      | some c => .ok c
      | none => fail .notMember

namespace KeyValue

def read (origin : Origin) : Raw → Checked KeyValue :=
  record fun ms =>
    .ok KeyValue.mk
      |> Checked.also (required ms "key" text)
      |> Checked.also (withDefault ms "version" none (optional integer))
      |> Checked.also (withDefault ms "value" ByteArray.empty (payload origin))

end KeyValue

namespace MessageType

def readMembers (origin : Origin) (ms : List (String × Raw)) : (t : MessageType) → Checked t.Body
  | .keyValue => KeyValue.read origin (.record ms)
  | .getObjectRequest =>
    .ok GetObjectRequest.mk
      |> Checked.also (required ms "store_id" nonEmptyText)
      |> Checked.also (required ms "key" text)
  | .getObjectResponse =>
    .ok GetObjectResponse.mk
      |> Checked.also (withDefault ms "value" none (optional (KeyValue.read origin)))
  | .putObjectRequest =>
    .ok PutObjectRequest.mk
      |> Checked.also (required ms "store_id" nonEmptyText)
      |> Checked.also (withDefault ms "transaction_items" [] (list (KeyValue.read origin)))
      |> Checked.also (withDefault ms "delete_items" [] (list (KeyValue.read origin)))
      |> Checked.also (withDefault ms "global_version" none (optional integer))
  | .putObjectResponse => .ok PutObjectResponse.mk
  | .deleteObjectRequest =>
    .ok DeleteObjectRequest.mk
      |> Checked.also (required ms "store_id" nonEmptyText)
      |> Checked.also (required ms "key" text)
      |> Checked.also (withDefault ms "version" none (optional integer))
  | .deleteObjectResponse => .ok DeleteObjectResponse.mk
  | .listKeyVersionsRequest =>
    .ok ListKeyVersionsRequest.mk
      |> Checked.also (required ms "store_id" nonEmptyText)
      |> Checked.also (withDefault ms "key_prefix" none (optional text))
      |> Checked.also (withDefault ms "page_size" none (optional (integerAbove 0)))
      |> Checked.also (withDefault ms "page_token" none (optional text))
  | .listKeyVersionsResponse =>
    .ok ListKeyVersionsResponse.mk
      |> Checked.also (withDefault ms "key_versions" [] (list (KeyValue.read origin)))
      |> Checked.also (withDefault ms "next_page_token" none (optional text))
      |> Checked.also (withDefault ms "global_version" none (optional integer))
  | .errorResponse =>
    .ok ErrorResponse.mk
      |> Checked.also (withDefault ms "error_code" .unknown ErrorCode.read)
      |> Checked.also (withDefault ms "message" "" text)

def read (origin : Origin) (t : MessageType) : Raw → Checked t.Body :=
  record fun ms => readMembers origin ms t

end MessageType

namespace Json

def ofOption {α : Type} (write : α → Json) : Option α → Json
  | none => .null
  | some x => write x

def payload (b : ByteArray) : Json := .string (String.ofList (Base64.encode b.data.toList))

end Json

namespace KeyValue

def toJson (kv : KeyValue) : Json :=
  .object [("key", .string kv.key), ("version", Json.ofOption .integer kv.version),
    ("value", Json.payload kv.value)]

end KeyValue

namespace MessageType

/-- A message as a JSON object with every field, in the order of declaration. -/
def toJson : (t : MessageType) → t.Body → Json
  | .keyValue, m => KeyValue.toJson m
  | .getObjectRequest, m =>
    .object [("store_id", .string m.storeId), ("key", .string m.key)]
  | .getObjectResponse, m => .object [("value", Json.ofOption KeyValue.toJson m.value)]
  | .putObjectRequest, m =>
    .object [("store_id", .string m.storeId),
      ("transaction_items", .array (m.transactionItems.map KeyValue.toJson)),
      ("delete_items", .array (m.deleteItems.map KeyValue.toJson)),
      ("global_version", Json.ofOption .integer m.globalVersion)]
  | .putObjectResponse, _ => .object []
  | .deleteObjectRequest, m =>
    .object [("store_id", .string m.storeId), ("key", .string m.key),
      ("version", Json.ofOption .integer m.version)]
  | .deleteObjectResponse, _ => .object []
  | .listKeyVersionsRequest, m =>
    .object [("store_id", .string m.storeId), ("key_prefix", Json.ofOption .string m.keyPrefix),
      ("page_size", Json.ofOption .integer m.pageSize),
      ("page_token", Json.ofOption .string m.pageToken)]
  | .listKeyVersionsResponse, m =>
    .object [("key_versions", .array (m.keyVersions.map KeyValue.toJson)),
      ("next_page_token", Json.ofOption .string m.nextPageToken),
      ("global_version", Json.ofOption .integer m.globalVersion)]
  | .errorResponse, m =>
    .object [("error_code", .integer m.errorCode.toInt), ("message", .string m.message)]

end MessageType

end VersionedStore
