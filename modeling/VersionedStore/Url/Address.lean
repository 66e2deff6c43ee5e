import VersionedStore.Json.Reader

/-!
Internet addresses in the place of a host name. An address of version 4 is
four numbers below 256 without leading zeros. An address of version 6 is eight
groups of up to four hexadecimal digits, two of which an address of version 4
may stand for at the end; two colons stand for a row of zero groups; a zone may
follow after a percent sign.
-/

namespace VersionedStore.Url

def cutAt (sep : Char) : List Char → List (List Char)
  | [] => [[]]
  | c :: cs =>
    if c = sep then [] :: cutAt sep cs
    else
      match cutAt sep cs with
      | [] => [[c]]
      | part :: parts => (c :: part) :: parts

def isOctet (cs : List Char) : Bool :=
  cs != [] && cs.all Char.isDigit && cs.length ≤ 3 &&
    (cs == ['0'] || cs.head? != some '0') &&
    cs.foldl (fun n c => 10 * n + (c.toNat - '0'.toNat)) 0 < 256

def isIPv4 (cs : List Char) : Bool :=
  let parts := cutAt '.' cs
  parts.length == 4 && parts.all isOctet

/-- Whether a text has the form of an address of version 4: four rows of digits
with points between them. -/
def looksLikeIPv4 (cs : List Char) : Bool :=
  let parts := cutAt '.' cs
  parts.length == 4 && parts.all fun part => part != [] && part.all Char.isDigit

def isGroup (cs : List Char) : Bool :=
  cs != [] && cs.length ≤ 4 && cs.all fun c => (Json.hexValue? c).isSome

/-- The groups of a text, an address of version 4 at the end counting as two;
no groups if that address is wrong. -/
def groups? (cs : List Char) : Option (List (List Char)) :=
  let parts := cutAt ':' cs
  match parts.getLast? with
  | none => none
  | some last =>
    if last.contains '.' then
      if isIPv4 last then some (parts.dropLast ++ [['0'], ['0']]) else none
    else some parts

/-- Groups on one side of two colons. An empty group at the outer end is
allowed only if nothing else stands there. -/
def isSide (side : List (List Char)) : Bool :=
  side == [[]] || side.all isGroup

/-- Whether groups make up an address. An empty group that is neither the first
nor the last stands for two colons. -/
def areGroups (groups : List (List Char)) : Bool :=
  let inner := (groups.drop 1).dropLast
  3 ≤ groups.length && groups.length ≤ 9 &&
    (match inner.findIdx? (· == []) with
     | none => groups.length == 8 && groups.all isGroup
     | some i =>
       let high := groups.take (i + 1)
       let low := groups.drop (i + 2)
       isSide high && isSide low && (high ++ low).countP (· != []) ≤ 7)

def isIPv6 (cs : List Char) : Bool :=
  match cs.span (· != '%') with
  | (address, []) => address != [] && ((groups? address).map areGroups).getD false
  | (address, _ :: zone) =>
    zone != [] && !zone.contains '%' &&
      address != [] && ((groups? address).map areGroups).getD false

end VersionedStore.Url
