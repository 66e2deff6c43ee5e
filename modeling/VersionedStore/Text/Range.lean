/-!
Classes of characters given by ranges of code points. Tables of a character
property are lists of such ranges.
-/

namespace VersionedStore.Text

abbrev Range := Nat × Nat

def inRanges (ranges : List Range) (n : Nat) : Bool :=
  ranges.any fun r => r.1 ≤ n && n ≤ r.2

end VersionedStore.Text
