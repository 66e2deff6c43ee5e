import VersionedStore.Text.Composition

/-!
Composed text: the normal form in which characters that combine are one
character where there is one, and marks stand in the order of their classes. A
text is composed if taking it apart and composing it again gives it back.
Syllables of Hangul are composed by arithmetic, all else by the table.
-/

namespace VersionedStore.Text

/-- The longest chain of characters that each compose the one before. -/
def maxChain : Nat := 4

def hangulFirst : Nat := 0xac00
def leadFirst : Nat := 0x1100
def vowelFirst : Nat := 0x1161
def tailFirst : Nat := 0x11a7
def leadCount : Nat := 19
def vowelCount : Nat := 21
def tailCount : Nat := 28

def apart : Nat → Nat → List Nat
  | 0, n => [n]
  | chain + 1, n =>
    if hangulFirst ≤ n ∧ n < hangulFirst + leadCount * vowelCount * tailCount then
      let i := n - hangulFirst
      let tail := i % tailCount
      [leadFirst + i / (vowelCount * tailCount), vowelFirst + i / tailCount % vowelCount] ++
        (if tail = 0 then [] else [tailFirst + tail])
    else
      match composites.find? fun t => t.1 == n with
      | some (_, a, b) => apart chain a ++ [b]
      | none => [n]

/-- A character put in order after others, which come last one first. -/
def insertMark (n : Nat) : List Nat → List Nat
  | [] => [n]
  | m :: ms =>
    if combiningClass n ≠ 0 ∧ combiningClass n < combiningClass m then m :: insertMark n ms
    else n :: m :: ms

def orderMarks (ns : List Nat) : List Nat :=
  (ns.foldl (fun done n => insertMark n done) []).reverse

def composed? (a b : Nat) : Option Nat :=
  if leadFirst ≤ a ∧ a < leadFirst + leadCount ∧ vowelFirst ≤ b ∧ b < vowelFirst + vowelCount then
    some (hangulFirst + ((a - leadFirst) * vowelCount + (b - vowelFirst)) * tailCount)
  else if hangulFirst ≤ a ∧ a < hangulFirst + leadCount * vowelCount * tailCount ∧
      (a - hangulFirst) % tailCount = 0 ∧ tailFirst < b ∧ b < tailFirst + tailCount then
    some (a + (b - tailFirst))
  else (composites.find? fun t => t.2.1 == a && t.2.2 == b).map (·.1)

/-- A text composed from its parts. `starter` is the character that further
ones may combine with, and `after` the marks that already follow it, the last
one first. -/
def composeAfter (starter : Option Nat) (after : List Nat) : List Nat → List Nat
  | [] => starter.toList ++ after.reverse
  | n :: ns =>
    let free := (after.head?.map fun m => decide (combiningClass m < combiningClass n)).getD true
    match if free then starter.bind (composed? · n) else none with
    | some c => composeAfter (some c) after ns
    | none =>
      if combiningClass n = 0 then starter.toList ++ after.reverse ++ composeAfter (some n) [] ns
      else composeAfter starter (n :: after) ns

def isComposed (ns : List Nat) : Bool :=
  !ns.any (inRanges neverComposed) &&
    composeAfter none [] (orderMarks (ns.flatMap (apart maxChain))) == ns

end VersionedStore.Text
