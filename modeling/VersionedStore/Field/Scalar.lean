import VersionedStore.Field.Numeral

/-!
Checks of single values: texts, integers, reals and payloads. A value of
another kind is converted where nothing is lost by it: a boolean counts as 0 or
1, a real without fraction as an integer, and a text that is written as a
number as that number.
-/

namespace VersionedStore.Field

def text : Raw → Checked String
  | .text s => .ok s
  | .bytes b =>
    match String.fromUTF8? b with
    | some s => .ok s
    | none => fail .textNotUnicode
  | _ => fail .notText

def nonEmptyText (r : Raw) : Checked String :=
  match text r with
  | .ok s => if s.isEmpty then fail .textTooShort else .ok s
  | .error issues => .error issues

/-- Integers from here on are not taken from a real. -/
def realBound : Nat := 0x8000000000000000

/-- The integer that a real is, within the range of 64 bits. -/
def integerOfReal (x : Binary64) : Checked Int :=
  if !x.isFinite then fail .notFinite
  else
    match x.toInt? with
    | none => fail .integerFraction
    | some n => if n.natAbs < realBound then .ok n else fail .integerSize

def integer : Raw → Checked Int
  | .integer n => .ok n
  | .bool b => .ok (if b then 1 else 0)
  | .real x => integerOfReal x
  | .text s => integerOfText s
  | .bytes b =>
    match String.fromUTF8? b with
    | some s => integerOfText s
    | none => fail .integerText
  | _ => fail .notInteger

def integerAbove (bound : Int) (r : Raw) : Checked Int :=
  match integer r with
  | .ok n => if bound < n then .ok n else fail .notAbove
  | .error issues => .error issues

def integerAtLeast (bound : Int) (r : Raw) : Checked { n : Int // bound ≤ n } :=
  match integer r with
  | .ok n => if h : bound ≤ n then .ok ⟨n, h⟩ else fail .notAtLeast
  | .error issues => .error issues

def real : Raw → Checked Binary64
  | .real x => .ok x
  | .integer n =>
    match Binary64.ofInt? n with
    | some x => .ok x
    | none => fail .notReal
  | .bool b => .ok (Binary64.ofInt (if b then 1 else 0))
  | .text s => realOfText s
  | .bytes b =>
    match String.fromUTF8? b with
    | some s => realOfText s
    | none => fail .realText
  | _ => fail .notReal

abbrev PositiveReal := { x : Binary64 // Binary64.zero.lt x = true }

abbrev NonNegativeReal := { x : Binary64 // Binary64.zero.le x = true }

def realAboveZero (r : Raw) : Checked PositiveReal :=
  match real r with
  | .ok x => if h : Binary64.zero.lt x = true then .ok ⟨x, h⟩ else fail .notAbove
  | .error issues => .error issues

def realAtLeastZero (r : Raw) : Checked NonNegativeReal :=
  match real r with
  | .ok x => if h : Binary64.zero.le x = true then .ok ⟨x, h⟩ else fail .notAtLeast
  | .error issues => .error issues

/-- A payload of bytes: base64 text on the wire; from a caller the bytes
themselves, or a text that stands for its own bytes in UTF-8. -/
def payload (origin : Origin) : Raw → Checked ByteArray
  | .bytes b => .ok b
  | .text s =>
    match origin with
    | .caller => .ok s.toUTF8
    | .wire =>
      match Base64.decode s.toList with
      | .ok bytes => .ok ⟨⟨bytes⟩⟩
      | .error fault => fail (.payload fault)
  | _ => fail .notBytes

def optional {α : Type} (read : Raw → Checked α) : Raw → Checked (Option α)
  | .none => .ok none
  | r => (read r).map some

end VersionedStore.Field
