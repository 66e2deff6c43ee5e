import VersionedStore.Number.Binary64

/-!
Decimal text of binary64 numbers. The shortest form is found on the grids of
1, 2, ... significant digits: the first grid with a point that rounds back to
the number wins, and of two such points the nearer. The form with a set number
of places rounds the exact value, a tie going to the even neighbour.
-/

namespace VersionedStore.Binary64

structure Point where
  digits : Nat
  exponent : Int
  deriving DecidableEq, Repr

def scaleUp (exponent : Int) (n : Nat) : Nat := n * Nat.pow 10 (-exponent).toNat

def scaleDown (exponent : Int) : Nat := one * Nat.pow 10 exponent.toNat

/-- The numbers that round to a positive number of units lie between these two
bounds, counted in quarters of a unit. Below a power of two the grid is twice
as fine, so the lower bound is nearer there. -/
def interval (units : Nat) : Nat × Nat :=
  let k := excess units
  let gap := Nat.pow 2 k
  let below := if units = Nat.pow 2 units.log2 ∧ k ≠ 0 then gap else 2 * gap
  (4 * units - below, 4 * units + 2 * gap)

/-- Whether a point rounds to the given number of units. The bounds belong to
the interval when the significand is even. -/
def roundsTo (units : Nat) (p : Point) : Bool :=
  let (low, high) := interval units
  let value := 4 * p.digits * scaleDown p.exponent
  if units / Nat.pow 2 (excess units) % 2 = 0 then
    decide (scaleUp p.exponent low ≤ value) && decide (value ≤ scaleUp p.exponent high)
  else
    decide (scaleUp p.exponent low < value) && decide (value < scaleUp p.exponent high)

/-- How many decimal digits the whole part of a number has; zero or less tells
how many zeros follow its point. -/
def wholeDigits (units : Nat) : Int :=
  ((Nat.toDigits 10 (units * Nat.pow 10 330 / one)).length : Int) - 330

/-- The point of the grid with the given number of digits that lies nearest to
the number, among its two neighbours that round back to it. -/
def onGrid? (units count : Nat) : Option Point :=
  let exponent := wholeDigits units - count
  let num := scaleUp exponent units
  let den := scaleDown exponent
  let below : Point := ⟨num / den, exponent⟩
  let above : Point := ⟨num / den + 1, exponent⟩
  match roundsTo units below, roundsTo units above with
  | true, true => if roundHalfEven num den = below.digits then some below else some above
  | true, false => some below
  | false, true => some above
  | false, false => none

/-- The point with the fewest digits that rounds to a positive number of units.
Seventeen digits are always enough. -/
def shortest (units : Nat) : Point :=
  ((List.range 17).findSome? fun n => onGrid? units (n + 1)).getD
    ⟨units / one, 0⟩

def Point.row (p : Point) : List Char :=
  ((Nat.toDigits 10 p.digits).reverse.dropWhile (· == '0')).reverse

def signText (negative : Bool) : String := if negative then "-" else ""

def positional (row : List Char) (whole : Int) : String :=
  if whole ≤ 0 then
    "0." ++ String.ofList (List.replicate (-whole).toNat '0' ++ row)
  else if (row.length : Int) ≤ whole then
    String.ofList (row ++ List.replicate (whole.toNat - row.length) '0') ++ ".0"
  else
    String.ofList (row.take whole.toNat) ++ "." ++ String.ofList (row.drop whole.toNat)

def scientific (row : List Char) (exponent : Int) : String :=
  let fraction := String.ofList (row.drop 1)
  let digits := Nat.repr exponent.natAbs
  String.ofList (row.take 1) ++ (if fraction = "" then "" else "." ++ fraction) ++
    "e" ++ (if exponent < 0 then "-" else "+") ++
    (if digits.length < 2 then "0" ++ digits else digits)

/-- The shortest text that reads back: positional for exponents from -4 up to
15, with an exponent beyond. -/
def text : Binary64 → String
  | .nan => "nan"
  | .infinite negative => signText negative ++ "inf"
  | .finite negative units _ =>
    if units = 0 then signText negative ++ "0.0"
    else
      let p := shortest units
      let whole := p.exponent + (Nat.toDigits 10 p.digits).length
      signText negative ++
        (if -3 ≤ whole ∧ whole ≤ 16 then positional p.row whole
         else scientific p.row (whole - 1))

def fixed (places : Nat) : Binary64 → String
  | .nan => "nan"
  | .infinite negative => signText negative ++ "inf"
  | .finite negative units _ =>
    let row := Nat.toDigits 10 (roundHalfEven (units * Nat.pow 10 places) one)
    let row := List.replicate (places + 1 - row.length) '0' ++ row
    signText negative ++ String.ofList (row.take (row.length - places)) ++ "." ++
      String.ofList (row.drop (row.length - places))

end VersionedStore.Binary64
