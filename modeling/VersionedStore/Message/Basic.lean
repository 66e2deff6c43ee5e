import VersionedStore.Bytes

/-!
The messages that a versioned store and its clients exchange: four requests
with their responses, the key-value pairs inside them, and the body of an
error. A version is an opaque number, compared for equality only; on a write it
is the version that the store is expected to hold.
-/

namespace VersionedStore

structure KeyValue where
  key : String
  version : Option Int
  value : ByteArray
  deriving DecidableEq

structure GetObjectRequest where
  storeId : String
  key : String
  deriving DecidableEq

structure GetObjectResponse where
  value : Option KeyValue
  deriving DecidableEq

/-- Items to write and items to delete, all of them or none. -/
structure PutObjectRequest where
  storeId : String
  transactionItems : List KeyValue
  deleteItems : List KeyValue
  globalVersion : Option Int
  deriving DecidableEq

structure PutObjectResponse where
  deriving DecidableEq

structure DeleteObjectRequest where
  storeId : String
  key : String
  version : Option Int
  deriving DecidableEq

structure DeleteObjectResponse where
  deriving DecidableEq

structure ListKeyVersionsRequest where
  storeId : String
  keyPrefix : Option String
  pageSize : Option Int
  pageToken : Option String
  deriving DecidableEq

/-- One page of keys with their versions, in the order of the store. -/
structure ListKeyVersionsResponse where
  keyVersions : List KeyValue
  nextPageToken : Option String
  globalVersion : Option Int
  deriving DecidableEq

inductive ErrorCode where
  | unknown
  | conflict
  | invalidRequest
  | internalServer
  | noSuchKey
  | auth
  deriving DecidableEq, Repr

namespace ErrorCode

def toInt : ErrorCode → Int
  | .unknown => 0
  | .conflict => 1
  | .invalidRequest => 2
  | .internalServer => 3
  | .noSuchKey => 4
  | .auth => 5

def ofInt? : Int → Option ErrorCode
  | 0 => some .unknown
  | 1 => some .conflict
  | 2 => some .invalidRequest
  | 3 => some .internalServer
  | 4 => some .noSuchKey
  | 5 => some .auth
  | _ => none

@[simp] theorem ofInt?_toInt (c : ErrorCode) : ofInt? c.toInt = some c := by
  cases c <;> rfl

end ErrorCode

structure ErrorResponse where
  errorCode : ErrorCode
  message : String
  deriving DecidableEq

inductive MessageType where
  | keyValue
  | getObjectRequest
  | getObjectResponse
  | putObjectRequest
  | putObjectResponse
  | deleteObjectRequest
  | deleteObjectResponse
  | listKeyVersionsRequest
  | listKeyVersionsResponse
  | errorResponse
  deriving DecidableEq, Repr

namespace MessageType

abbrev Body : MessageType → Type
  | .keyValue => KeyValue
  | .getObjectRequest => GetObjectRequest
  | .getObjectResponse => GetObjectResponse
  | .putObjectRequest => PutObjectRequest
  | .putObjectResponse => PutObjectResponse
  | .deleteObjectRequest => DeleteObjectRequest
  | .deleteObjectResponse => DeleteObjectResponse
  | .listKeyVersionsRequest => ListKeyVersionsRequest
  | .listKeyVersionsResponse => ListKeyVersionsResponse
  | .errorResponse => ErrorResponse

instance : (t : MessageType) → DecidableEq t.Body
  | .keyValue => inferInstanceAs (DecidableEq KeyValue)
  | .getObjectRequest => inferInstanceAs (DecidableEq GetObjectRequest)
  | .getObjectResponse => inferInstanceAs (DecidableEq GetObjectResponse)
  | .putObjectRequest => inferInstanceAs (DecidableEq PutObjectRequest)
  | .putObjectResponse => inferInstanceAs (DecidableEq PutObjectResponse)
  | .deleteObjectRequest => inferInstanceAs (DecidableEq DeleteObjectRequest)
  | .deleteObjectResponse => inferInstanceAs (DecidableEq DeleteObjectResponse)
  | .listKeyVersionsRequest => inferInstanceAs (DecidableEq ListKeyVersionsRequest)
  | .listKeyVersionsResponse => inferInstanceAs (DecidableEq ListKeyVersionsResponse)
  | .errorResponse => inferInstanceAs (DecidableEq ErrorResponse)

def name : MessageType → String
  | .keyValue => "KeyValue"
  | .getObjectRequest => "GetObjectRequest"
  | .getObjectResponse => "GetObjectResponse"
  | .putObjectRequest => "PutObjectRequest"
  | .putObjectResponse => "PutObjectResponse"
  | .deleteObjectRequest => "DeleteObjectRequest"
  | .deleteObjectResponse => "DeleteObjectResponse"
  | .listKeyVersionsRequest => "ListKeyVersionsRequest"
  | .listKeyVersionsResponse => "ListKeyVersionsResponse"
  | .errorResponse => "ErrorResponse"

end MessageType

end VersionedStore
