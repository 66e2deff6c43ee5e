/-!
White space and its removal from both ends of a text. Two classes are in use:
the Unicode property White_Space, and the same class together with the four
information separators, which separate fields in an environment.
-/

namespace VersionedStore.Text

/-- The Unicode property White_Space. -/
def isSpace (c : Char) : Bool :=
  let n := c.toNat
  (0x09 ≤ n && n ≤ 0x0d) || n == 0x20 || n == 0x85 || n == 0xa0 || n == 0x1680 ||
    (0x2000 ≤ n && n ≤ 0x200a) || n == 0x2028 || n == 0x2029 || n == 0x202f ||
    n == 0x205f || n == 0x3000

/-- White space, or one of the four information separators. -/
def isBlank (c : Char) : Bool :=
  isSpace c || (0x1c ≤ c.toNat && c.toNat ≤ 0x1f)

def trimEnd (p : Char → Bool) (cs : List Char) : List Char :=
  (cs.reverse.dropWhile p).reverse

def trim (p : Char → Bool) (cs : List Char) : List Char :=
  trimEnd p (cs.dropWhile p)

theorem trimEnd_append_of_pos {p : Char → Bool} {c : Char} (cs : List Char) (h : p c = true) :
    trimEnd p (cs ++ [c]) = trimEnd p cs := by
  simp [trimEnd, h]

theorem trimEnd_append_of_neg {p : Char → Bool} {c : Char} (cs : List Char) (h : p c = false) :
    trimEnd p (cs ++ [c]) = cs ++ [c] := by
  simp [trimEnd, h]

end VersionedStore.Text
