/-!
Bytes as text in the alphabet base64 of RFC 4648. The encoder pads every group
to four characters. The decoder accepts characters of the alphabet and then
padding only, and reports the first fault from the left; unused trailing bits
of the last group are dropped.
-/

namespace VersionedStore.Base64

inductive Fault where
  | notAscii
  | leadingPadding
  | notInAlphabet
  | dataAfterPadding
  | textAfterEnd
  | loneCharacter (count : Nat)
  | missingPadding
  deriving DecidableEq, Repr

def symbol (v : Nat) : Char :=
  if v < 26 then Char.ofNat ('A'.toNat + v)
  else if v < 52 then Char.ofNat ('a'.toNat + (v - 26))
  else if v < 62 then Char.ofNat ('0'.toNat + (v - 52))
  else if v = 62 then '+'
  else '/'

def value? (c : Char) : Option Nat :=
  if c.isUpper then some (c.toNat - 'A'.toNat)
  else if c.isLower then some (c.toNat - 'a'.toNat + 26)
  else if c.isDigit then some (c.toNat - '0'.toNat + 52)
  else if c = '+' then some 62
  else if c = '/' then some 63
  else none

def encode : List UInt8 → List Char
  | [] => []
  | [a] =>
    let n := a.toNat * 16
    [symbol (n / 64), symbol (n % 64), '=', '=']
  | [a, b] =>
    let n := (a.toNat * 256 + b.toNat) * 4
    [symbol (n / 4096), symbol (n / 64 % 64), symbol (n % 64), '=']
  | a :: b :: c :: rest =>
    let n := (a.toNat * 256 + b.toNat) * 256 + c.toNat
    symbol (n / 262144) :: symbol (n / 4096 % 64) :: symbol (n / 64 % 64) ::
      symbol (n % 64) :: encode rest

/-- The values of the data characters of a text. `count` of them went before,
and `pads` padding characters that belong to an open group; `padded` tells
whether padding has begun. -/
def scan (count pads : Nat) (padded : Bool) : List Char → Except Fault (List Nat)
  | [] =>
    if count % 4 = 0 then .ok []
    else if count % 4 = 1 then .error (.loneCharacter count)
    else .error .missingPadding
  | c :: cs =>
    if c = '=' then
      if 2 ≤ count % 4 then
        if 4 ≤ count % 4 + (pads + 1) then
          if cs.isEmpty then .ok [] else .error .textAfterEnd
        else scan count (pads + 1) true cs
      else scan count pads true cs
    else
      match value? c with
      | none => .error .notInAlphabet
      | some v =>
        if padded then .error .dataAfterPadding
        else (scan (count + 1) pads false cs).map (v :: ·)

/-- Values of six bits each as bytes; what is left of less than eight bits is
dropped. -/
def pack : List Nat → List UInt8
  | a :: b :: c :: d :: rest =>
    let n := ((a * 64 + b) * 64 + c) * 64 + d
    UInt8.ofNat (n / 65536) :: UInt8.ofNat (n / 256) :: UInt8.ofNat n :: pack rest
  | [a, b, c] =>
    let n := (a * 64 + b) * 64 + c
    [UInt8.ofNat (n / 1024), UInt8.ofNat (n / 4)]
  | [a, b] => [UInt8.ofNat ((a * 64 + b) / 16)]
  | _ => []

def decode (cs : List Char) : Except Fault (List UInt8) :=
  if cs.any fun c => 0x7f < c.toNat then .error .notAscii
  else if cs.head? = some '=' then .error .leadingPadding
  else (scan 0 0 false cs).map pack

def Fault.message : Fault → String
  | .notAscii => "string argument should contain only ASCII characters"
  | .leadingPadding => "invalid base64 payload: Leading padding not allowed"
  | .notInAlphabet => "invalid base64 payload: Only base64 data is allowed"
  | .dataAfterPadding => "invalid base64 payload: Discontinuous padding not allowed"
  | .textAfterEnd => "invalid base64 payload: Excess data after padding"
  | .loneCharacter count =>
    "invalid base64 payload: Invalid base64-encoded string: number of data characters (" ++
      count.repr ++ ") cannot be 1 more than a multiple of 4"
  | .missingPadding => "invalid base64 payload: Incorrect padding"

end VersionedStore.Base64
