import VersionedStore.Number.Binary64
import VersionedStore.Json.Basic
import VersionedStore.Base64

/-!
Values before they are checked, and what a check may find wrong with them. A
`Raw` value comes from a caller or from a JSON body; an `Issue` is a problem
together with the place of the value that has it. Checking a record goes on
after the first problem, so that all of them are reported in one go.
-/

namespace VersionedStore

/-- A value that has not been checked against a field yet. Bytes come from
callers only; a JSON body holds them as text. -/
inductive Raw where
  | none
  | bool (b : Bool)
  | integer (n : Int)
  | real (x : Binary64)
  | text (s : String)
  | bytes (b : ByteArray)
  | list (items : List Raw)
  | record (members : List (String × Raw))
  deriving Inhabited

namespace Raw

mutual

/-- A JSON value as a raw value; decimals are rounded to binary64 here. -/
def ofJson : Json → Raw
  | .null => .none
  | .bool b => .bool b
  | .integer n => .integer n
  | .real x => .real (Binary64.ofNumeral x)
  | .string s => .text s
  | .array items => .list (ofJsonItems items)
  | .object members => .record (ofJsonMembers members)

def ofJsonItems : List Json → List Raw
  | [] => []
  | j :: js => ofJson j :: ofJsonItems js

def ofJsonMembers : List (String × Json) → List (String × Raw)
  | [] => []
  | (name, j) :: rest => (name, ofJson j) :: ofJsonMembers rest

end

end Raw

inductive Origin where
  | wire
  | caller
  deriving DecidableEq, Repr

namespace Field

inductive Step where
  | name (field : String)
  | index (i : Nat)
  deriving DecidableEq, Repr

inductive Problem where
  | missing
  | notRecord
  | notList
  | notText
  | textTooShort
  | textNotUnicode
  | notBytes
  | notInteger
  | integerText
  | integerFraction
  | integerSize
  | notFinite
  | notAbove
  | notAtLeast
  | notReal
  | realText
  | notMember
  | payload (fault : Base64.Fault)
  | rejected (reason : String)
  | invalidJson
  | frozen
  deriving DecidableEq, Repr

def Problem.code : Problem → String
  | .missing => "missing"
  | .notRecord => "model_type"
  | .notList => "list_type"
  | .notText => "string_type"
  | .textTooShort => "string_too_short"
  | .textNotUnicode => "string_unicode"
  | .notBytes => "bytes_type"
  | .notInteger => "int_type"
  | .integerText => "int_parsing"
  | .integerFraction => "int_from_float"
  | .integerSize => "int_parsing_size"
  | .notFinite => "finite_number"
  | .notAbove => "greater_than"
  | .notAtLeast => "greater_than_equal"
  | .notReal => "float_type"
  | .realText => "float_parsing"
  | .notMember => "enum"
  | .payload _ | .rejected _ => "value_error"
  | .invalidJson => "json_invalid"
  | .frozen => "frozen_instance"

def Problem.explanation? : Problem → Option String
  | .payload fault => some ("Value error, " ++ fault.message)
  | .rejected reason => some ("Value error, " ++ reason)
  | _ => none

structure Issue where
  problem : Problem
  place : List Step
  deriving DecidableEq, Repr

/-- A value that passed its checks, or all issues in the order of the fields. -/
abbrev Checked (α : Type) := Except (List Issue) α

def fail {α : Type} (p : Problem) : Checked α := .error [⟨p, []⟩]

namespace Checked

/-- Issues of a part, placed inside the whole. -/
def inside {α : Type} (step : Step) : Checked α → Checked α
  | .ok x => .ok x
  | .error issues => .error (issues.map fun i => { i with place := step :: i.place })

/-- A further part beside those that `f` holds already; the issues of the
earlier parts come first. -/
def also {α β : Type} (x : Checked α) (f : Checked (α → β)) : Checked β :=
  match f, x with
  | .ok f, .ok x => .ok (f x)
  | .ok _, .error issues => .error issues
  | .error issues, .ok _ => .error issues
  | .error issues, .error more => .error (issues ++ more)

end Checked

end Field

end VersionedStore
