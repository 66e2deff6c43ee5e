import VersionedStore.Json.Reader

/-!
Escapes in URLs. A character that may not stand in a part is written as the
bytes of its UTF-8 form, each a percent sign and two hexadecimal digits in
upper case. A percent sign itself is left alone, so that escapes which are
there already stay as they are.
-/

namespace VersionedStore.Url

def hexUpper (n : Nat) : Char :=
  if n < 10 then Char.ofNat ('0'.toNat + n) else Char.ofNat ('A'.toNat + (n - 10))

def escapeChar (c : Char) : List Char :=
  (String.utf8EncodeChar c).flatMap fun b =>
    ['%', hexUpper (b.toNat / 16), hexUpper (b.toNat % 16)]

def escape (safe : Char → Bool) (cs : List Char) : List Char :=
  cs.flatMap fun c => if safe c then [c] else escapeChar c

def visibleBut (excluded : String) (c : Char) : Bool :=
  0x21 ≤ c.toNat && c.toNat ≤ 0x7e && !excluded.toList.contains c

def fragmentSafe : Char → Bool := visibleBut "\"<>`"

def querySafe : Char → Bool := visibleBut "\"#<>"

def pathSafe : Char → Bool := visibleBut "\"#<>?`\x7b\x7d"

def userinfoSafe : Char → Bool := visibleBut "\"#<>?`\x7b\x7d/;=@[\\]^|"

def hostSafe (c : Char) : Bool :=
  c.isAlphanum || "-._~!$&'()*+,;=\"`\x7b\x7d%|\\".toList.contains c

end VersionedStore.Url
