import VersionedStore.Text.Quoted

/-!
Texts that have to be ASCII. The fault of one that is not names the first row
of characters at fault.
-/

namespace VersionedStore.Text

def isAscii (c : Char) : Bool := c.toNat < 0x80

def asciiFault? (cs : List Char) : Option String :=
  let first := (cs.takeWhile isAscii).length
  match (cs.drop first).takeWhile fun c => !isAscii c with
  | [] => none
  | [c] =>
    some ("'ascii' codec can't encode character '" ++ String.ofList (codeOf c.toNat) ++
      "' in position " ++ first.repr ++ ": ordinal not in range(128)")
  | c :: cs =>
    some ("'ascii' codec can't encode characters in position " ++ first.repr ++ "-" ++
      (first + (c :: cs).length - 1).repr ++ ": ordinal not in range(128)")

end VersionedStore.Text
