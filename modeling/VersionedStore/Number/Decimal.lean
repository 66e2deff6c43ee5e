/-!
Numbers written in decimal. A `Decimal` keeps the sign, the digits and the
power of ten of a numeral without rounding; a `Numeral` is what a text written
as a number denotes, which may also be an infinity or no number at all.
-/

namespace VersionedStore

/-- The number `mantissa * 10 ^ exponent` with a sign, which zero keeps. -/
structure Decimal where
  negative : Bool
  mantissa : Nat
  exponent : Int
  deriving DecidableEq, Repr

inductive Numeral where
  | decimal (d : Decimal)
  | infinite (negative : Bool)
  | nan
  deriving DecidableEq, Repr

namespace Number

def ofDigits (ds : List Nat) : Nat :=
  ds.foldl (fun n d => 10 * n + d) 0

def asciiDigit? (c : Char) : Option Nat :=
  if c.isDigit then some (c.toNat - '0'.toNat) else none

def sign : List Char → Bool × List Char
  | '-' :: cs => (true, cs)
  | '+' :: cs => (false, cs)
  | cs => (false, cs)

/-- The digits at the front of a text and what follows them. One underscore
may stand between two digits; `afterDigit` tells whether a digit went before. -/
def digits (digit? : Char → Option Nat) (afterDigit : Bool) : List Char → List Nat × List Char
  | [] => ([], [])
  | c :: cs =>
    match digit? c with
    | some d =>
      let (ds, rest) := digits digit? true cs
      (d :: ds, rest)
    | none =>
      if afterDigit && c == '_' && (cs.head?.bind digit?).isSome then digits digit? false cs
      else ([], c :: cs)

def signed (negative : Bool) (n : Nat) : Int :=
  if negative then -(n : Int) else n

def integer? (digit? : Char → Option Nat) (cs : List Char) : Option (Bool × List Nat) :=
  let (negative, cs) := sign cs
  match digits digit? false cs with
  | (d :: ds, []) => some (negative, d :: ds)
  | _ => none

def exponent? (digit? : Char → Option Nat) : List Char → Option Int
  | [] => some 0
  | e :: cs =>
    if e == 'e' || e == 'E' then
      (integer? digit? cs).map fun (negative, ds) => signed negative (ofDigits ds)
    else none

def named? (negative : Bool) (name : List Char) : Option Numeral :=
  if name = "inf".toList ∨ name = "infinity".toList then some (.infinite negative)
  else if name = "nan".toList then some .nan
  else none

/-- An optional sign, then digits with an optional fraction and exponent, at
least one digit standing beside the point; or a name in any case of letters. -/
def real? (digit? : Char → Option Nat) (cs : List Char) : Option Numeral :=
  let (negative, body) := sign cs
  let (whole, rest) := digits digit? false body
  let (fraction, rest) :=
    match rest with
    | '.' :: rest => digits digit? false rest
    | _ => ([], rest)
  if whole.isEmpty && fraction.isEmpty then named? negative (body.map Char.toLower)
  else
    (exponent? digit? rest).map fun e =>
      .decimal ⟨negative, ofDigits (whole ++ fraction), e - fraction.length⟩

end Number

end VersionedStore
