import VersionedStore.Text.Printable

/-!
Texts between quotes, as messages show them. A single quote encloses the text
unless the text holds one and no double quote. The backslash, the enclosing
quote and whatever is not printable are escaped. Code points that are no
characters can be shown, too.
-/

namespace VersionedStore.Text

def quoteOf (ns : List Nat) : Char :=
  if ns.contains '\''.toNat && !ns.contains '"'.toNat then '"' else '\''

def hexPadded (count n : Nat) : List Char :=
  let ds := Nat.toDigits 16 n
  List.replicate (count - ds.length) '0' ++ ds

/-- A code point as a number, in the shortest of the forms with two, four or
eight hexadecimal digits. -/
def codeOf (n : Nat) : List Char :=
  if n < 0x100 then '\\' :: 'x' :: hexPadded 2 n
  else if n < 0x10000 then '\\' :: 'u' :: hexPadded 4 n
  else '\\' :: 'U' :: hexPadded 8 n

/-- A code point inside a quoted text. One that is no character is not
printable. -/
def quoteCode (quote : Char) (n : Nat) : List Char :=
  if n = quote.toNat then ['\\', quote]
  else if n = '\\'.toNat then ['\\', '\\']
  else if n = '\t'.toNat then ['\\', 't']
  else if n = '\n'.toNat then ['\\', 'n']
  else if n = '\r'.toNat then ['\\', 'r']
  else if isPrintable n then [Char.ofNat n]
  else codeOf n

def quotedCodes (ns : List Nat) : String :=
  let quote := quoteOf ns
  String.ofList (quote :: ns.flatMap (quoteCode quote) ++ [quote])

def quoted (s : String) : String := quotedCodes (s.toList.map Char.toNat)

end VersionedStore.Text
