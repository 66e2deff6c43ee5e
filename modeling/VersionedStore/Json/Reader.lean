import VersionedStore.Json.Basic

/-!
The reader of JSON text. It accepts one value of RFC 8259 with white space
around the tokens, and besides the names `NaN`, `Infinity` and `-Infinity`.
Integers, and the whole part of every other number, have at most 4300 digits;
a container with content stands at nesting level 200 at most, an empty one at
level 201 at most.
-/

namespace VersionedStore.Json

abbrev Reader (α : Type) := List Char → Option (α × List Char)

def maxDigits : Nat := 4300

/-- The deepest level at which a container may have content. -/
def maxDepth : Nat := 200

def isGap (c : Char) : Bool :=
  c == ' ' || c == '\t' || c == '\n' || c == '\r'

def skip (cs : List Char) : List Char := cs.dropWhile isGap

/-- A unit of a string's text: a character as it stands, or the sixteen bits
that an escape of four hexadecimal digits gives. -/
inductive Unit16 where
  | plain (c : Char)
  | escaped (n : Nat)
  deriving DecidableEq, Repr

def hexValue? (c : Char) : Option Nat :=
  if c.isDigit then some (c.toNat - '0'.toNat)
  else if 'a' ≤ c && c ≤ 'f' then some (c.toNat - 'a'.toNat + 10)
  else if 'A' ≤ c && c ≤ 'F' then some (c.toNat - 'A'.toNat + 10)
  else none

def hexUnit? (a b c d : Char) : Option Nat := do
  let a ← hexValue? a
  let b ← hexValue? b
  let c ← hexValue? c
  let d ← hexValue? d
  return ((a * 16 + b) * 16 + c) * 16 + d

def shortEscape? (c : Char) : Option Char :=
  if c = '"' ∨ c = '\\' ∨ c = '/' then some c
  else if c = 'b' then some '\x08'
  else if c = 'f' then some '\x0c'
  else if c = 'n' then some '\n'
  else if c = 'r' then some '\r'
  else if c = 't' then some '\t'
  else none

def units : Reader (List Unit16)
  | [] => none
  | '"' :: cs => some ([], cs)
  | '\\' :: 'u' :: a :: b :: c :: d :: cs =>
    match hexUnit? a b c d, units cs with
    | some n, some (us, rest) => some (.escaped n :: us, rest)
    | _, _ => none
  | '\\' :: e :: cs =>
    match shortEscape? e, units cs with
    | some c, some (us, rest) => some (.plain c :: us, rest)
    | _, _ => none
  | c :: cs =>
    if c.toNat < 0x20 || c == '\\' then none
    else (units cs).map fun (us, rest) => (.plain c :: us, rest)

def isHighHalf (n : Nat) : Bool := 0xd800 ≤ n && n < 0xdc00
def isLowHalf (n : Nat) : Bool := 0xdc00 ≤ n && n < 0xe000

def joinHalves (high low : Nat) : Char :=
  Char.ofNat (0x10000 + (high - 0xd800) * 0x400 + (low - 0xdc00))

/-- The characters that units stand for; a half without its partner stands for
none. -/
def join? : List Unit16 → Option (List Char)
  | [] => some []
  | .plain c :: us => (join? us).map (c :: ·)
  | .escaped n :: us =>
    if isHighHalf n then
      match us with
      | .escaped m :: us =>
        if isLowHalf m then (join? us).map (joinHalves n m :: ·) else none
      | _ => none
    else if isLowHalf n then none
    else (join? us).map (Char.ofNat n :: ·)

def quoted : Reader String := fun cs => do
  let (us, rest) ← units cs
  let s ← join? us
  return (String.ofList s, rest)

def digitRow (cs : List Char) : List Nat × List Char :=
  ((cs.takeWhile Char.isDigit).map fun c => c.toNat - '0'.toNat, cs.dropWhile Char.isDigit)

def whole : Reader (List Nat) := fun cs =>
  match digitRow cs with
  | ([], _) => none
  | (0 :: _ :: _, _) => none
  | (ds, rest) => if ds.length ≤ maxDigits then some (ds, rest) else none

def fraction : Reader (Option (List Nat))
  | '.' :: cs =>
    match digitRow cs with
    | ([], _) => none
    | (ds, rest) => some (some ds, rest)
  | cs => some (none, cs)

def exponent : Reader (Option Int) := fun cs =>
  match cs with
  | e :: rest =>
    if e == 'e' || e == 'E' then
      let (negative, rest) := Number.sign rest
      match digitRow rest with
      | ([], _) => none
      | (ds, rest) => some (some (Number.signed negative (Number.ofDigits ds)), rest)
    else some (none, cs)
  | [] => some (none, [])

def magnitude (negative : Bool) : Reader Json := fun cs => do
  let (ds, cs) ← whole cs
  let (fs, cs) ← fraction cs
  let (e, cs) ← exponent cs
  match fs, e with
  | none, none => return (.integer (Number.signed negative (Number.ofDigits ds)), cs)
  | fs, e =>
    let fs := fs.getD []
    let e := e.getD 0
    return (.real (.decimal ⟨negative, Number.ofDigits (ds ++ fs), e - fs.length⟩), cs)

def afterWord? (word cs : List Char) : Option (List Char) :=
  if word.isPrefixOf cs then some (cs.drop word.length) else none

def named : Reader Json := fun cs =>
  [("null", Json.null), ("true", .bool true), ("false", .bool false), ("NaN", .real .nan),
    ("Infinity", .real (.infinite false)), ("-Infinity", .real (.infinite true))].findSome?
    fun (word, j) => (afterWord? word.toList cs).map fun rest => (j, rest)

/-- Items separated by commas up to a closing character, with white space
around them. At least one item stands there. The first text bounds their
number: no text holds more items than characters. -/
def items {α : Type} (item : Reader α) (close : Char) : List Char → Reader (List α)
  | [], _ => none
  | _ :: bound, cs => do
    let (x, cs) ← item (skip cs)
    match skip cs with
    | [] => none
    | c :: cs =>
      if c == close then return ([x], cs)
      else if c == ',' then
        let (xs, cs) ← items item close bound cs
        return (x :: xs, cs)
      else none

def container {α : Type} (item : Reader α) (close : Char) : Reader (List α) := fun cs =>
  let cs := skip cs
  match cs with
  | [] => none
  | c :: rest => if c == close then some ([], rest) else items item close cs cs

def member (value : Reader Json) : Reader (String × Json)
  | '"' :: cs => do
    let (name, cs) ← quoted cs
    match skip cs with
    | ':' :: cs =>
      let (j, cs) ← value (skip cs)
      return ((name, j), cs)
    | _ => none
  | _ => none

/-- A value whose containers hold what `inner` reads. -/
def valueOver (inner : Reader Json) : Reader Json
  | '"' :: cs => (quoted cs).map fun (s, rest) => (.string s, rest)
  | '[' :: cs => (container inner ']' cs).map fun (js, rest) => (.array js, rest)
  | '{' :: cs => (container (member inner) '}' cs).map fun (ms, rest) => (.object ms, rest)
  | cs =>
    (named cs).or
      (match cs with
       | '-' :: rest => magnitude true rest
       | _ => magnitude false cs)

/-- A value in which containers with content are nested at most `depth` deep. -/
def value : Nat → Reader Json
  | 0 => valueOver fun _ => none
  | depth + 1 => valueOver (value depth)

def parse? (cs : List Char) : Option Json := do
  let (j, rest) ← value maxDepth (skip cs)
  if (skip rest).isEmpty then return j else none

def parseBytes? (bytes : ByteArray) : Option Json := do
  let s ← String.fromUTF8? bytes
  parse? s.toList

end VersionedStore.Json
