import VersionedStore.Message.Schema
import VersionedStore.Json.Reader
import VersionedStore.Json.Printer

/-!
Messages as bodies of bytes. A body is the compact JSON text of a message in
UTF-8. An empty body stands for the empty object, so that a bare
acknowledgement needs no content.
-/

namespace VersionedStore

open VersionedStore.Field

structure DecodeError where
  expected : MessageType
  issues : List Issue
  deriving DecidableEq, Repr

namespace DecodeError

def message (e : DecodeError) : String :=
  "Failed to decode " ++ e.expected.name ++ ": " ++ e.issues.length.repr ++ " validation error(s)"

end DecodeError

namespace MessageType

def encodeText (t : MessageType) (m : t.Body) : String := (t.toJson m).text

def encode (t : MessageType) (m : t.Body) : ByteArray := (t.encodeText m).toUTF8

def ofJson (t : MessageType) (j : Json) : Checked t.Body := t.read .wire (Raw.ofJson j)

/-- The message that a body stands for, with all issues that keep it from
being one. -/
def check (t : MessageType) (body : ByteArray) : Checked t.Body :=
  if body.isEmpty then t.ofJson (.object [])
  else
    match Json.parseBytes? body with
    | some j => t.ofJson j
    | none => fail .invalidJson

def decode (t : MessageType) (body : ByteArray) : Except DecodeError t.Body :=
  (t.check body).mapError fun issues => ⟨t, issues⟩

end MessageType

def jsonContentType : String := "application/json"

end VersionedStore
