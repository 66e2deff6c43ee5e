import VersionedStore.Field.Basic
import VersionedStore.Text.Blank

/-!
Texts of numbers. The plain text of an integer is a minus sign, if there is
one, and digits, the first of which is zero only if it is the last as well. A
text that is not plain is tidied first: white space around it, a plus sign,
zeros and underscores in front of the digits, a fraction of zeros, and
underscores between the digits are left out. A row of digits that is too long
is told apart from other faults only where the text starts with it.
-/

namespace VersionedStore.Field

open Number

def maxTextDigits : Nat := 4300

/-- Whether every underscore of a text stands between two other characters.
`afterOther` tells whether another character went before. -/
def underscoresInside (afterOther : Bool) : List Char → Bool
  | [] => true
  | c :: cs =>
    if c = '_' then afterOther && !cs.isEmpty && underscoresInside false cs
    else underscoresInside true cs

def withoutUnderscores? (cs : List Char) : Option (List Char) :=
  if underscoresInside false cs then some (cs.filter (· != '_')) else none

inductive Plain where
  | integer (n : Int)
  | tooLong
  | other
  deriving DecidableEq, Repr

def minus : List Char → Bool × List Char
  | '-' :: cs => (true, cs)
  | cs => (false, cs)

/-- The integer of a plain text. A row of digits counts as too long whatever
comes after it. -/
def plainInteger (cs : List Char) : Plain :=
  let (negative, cs) := minus cs
  if cs = ['0'] then .integer 0
  else
    let (ds, rest) := cs.span Char.isDigit
    if ds = [] ∨ ds.head? = some '0' then .other
    else if maxTextDigits < ds.length then .tooLong
    else if rest = [] then .integer (signed negative (ofDigits (ds.filterMap asciiDigit?)))
    else .other

/-- What is left of a text after zeros and underscores, of which `last` is the
last. That one stays if nothing but a fraction follows. A minus sign is left
as well. -/
def afterZeros (last : Char) : List Char → Option (List Char)
  | [] => some [last]
  | c :: cs =>
    if c = '0' ∨ c = '_' then afterZeros c cs
    else if c = '.' then some (last :: c :: cs)
    else if c.isDigit ∨ c = '-' then some (c :: cs)
    else none

def withoutZeros : List Char → Option (List Char)
  | [] => none
  | c :: cs =>
    if c = '0' then afterZeros c cs
    else if c.isDigit then some (c :: cs)
    else none

def withoutFraction (cs : List Char) : List Char :=
  match cs.span (· != '.') with
  | (whole, _ :: zeros) => if !zeros.isEmpty && zeros.all (· == '0') then whole else cs
  | (_, []) => cs

def tidy (cs : List Char) : Option (List Char) :=
  let (negative, cs) := sign (Text.trim Text.isSpace cs)
  (withoutZeros cs).map fun cs =>
    let cs := withoutFraction cs
    let cs := (withoutUnderscores? cs).getD cs
    if negative then '-' :: cs else cs

def integerOfText (s : String) : Checked Int :=
  match plainInteger s.toList with
  | .integer n => .ok n
  | .tooLong => fail .integerSize
  | .other =>
    match (tidy s.toList).map plainInteger with
    | some (.integer n) => .ok n
    | _ => fail .integerText

/-- The characters of a real's text that count: white space around a text
without underscores does not. -/
def realChars? (cs : List Char) : Option (List Char) :=
  if cs.contains '_' then withoutUnderscores? cs else some (Text.trim Text.isSpace cs)

def realOfText (s : String) : Checked Binary64 :=
  match (realChars? s.toList).bind (real? asciiDigit?) with
  | some x => .ok (Binary64.ofNumeral x)
  | none => fail .realText

end VersionedStore.Field
