import VersionedStore.Json.Basic

/-!
The compact text of a JSON value: no white space, members in order, characters
beyond ASCII as they are, and control characters below U+0020 escaped.
-/

namespace VersionedStore.Json

def hexDigit (n : Nat) : Char := Nat.digitChar (n % 16)

def escape (c : Char) : List Char :=
  if c = '"' then ['\\', '"']
  else if c = '\\' then ['\\', '\\']
  else if c = '\x08' then ['\\', 'b']
  else if c = '\x0c' then ['\\', 'f']
  else if c = '\n' then ['\\', 'n']
  else if c = '\r' then ['\\', 'r']
  else if c = '\t' then ['\\', 't']
  else if c.toNat < 0x20 then
    ['\\', 'u', '0', '0', hexDigit (c.toNat / 16), hexDigit c.toNat]
  else [c]

def writeString (s : String) : List Char :=
  '"' :: s.toList.flatMap escape ++ ['"']

def writeInt : Int → List Char
  | .ofNat n => Nat.toDigits 10 n
  | .negSucc n => '-' :: Nat.toDigits 10 (n + 1)

/-- A decimal is written with its exponent, which tells it from an integer. -/
def writeNumeral : Numeral → List Char
  | .decimal d =>
    (if d.negative then ['-'] else []) ++ Nat.toDigits 10 d.mantissa ++
      'e' :: writeInt d.exponent
  | .infinite negative => (if negative then ['-'] else []) ++ "Infinity".toList
  | .nan => "NaN".toList

mutual

def write : Json → List Char
  | .null => "null".toList
  | .bool true => "true".toList
  | .bool false => "false".toList
  | .integer n => writeInt n
  | .real x => writeNumeral x
  | .string s => writeString s
  | .array items => '[' :: writeItems items ++ [']']
  | .object members => '{' :: writeMembers members ++ ['}']

def writeItems : List Json → List Char
  | [] => []
  | [j] => write j
  | j :: js => write j ++ ',' :: writeItems js

def writeMembers : List (String × Json) → List Char
  | [] => []
  | [(name, j)] => writeString name ++ ':' :: write j
  | (name, j) :: rest => writeString name ++ ':' :: write j ++ ',' :: writeMembers rest

end

def text (j : Json) : String := String.ofList j.write

end VersionedStore.Json
