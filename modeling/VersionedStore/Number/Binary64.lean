import VersionedStore.Number.Decimal

/-!
Floating-point numbers of the format binary64. A finite number is a sign and a
whole number of units of 2^-1074, the least positive number of the format, so
that every operation is exact arithmetic on naturals followed by one rounding
to 53 significant bits, a tie going to the even neighbour.
-/

namespace VersionedStore

namespace Binary64

/-- The quotient rounded to the nearest natural, a tie to the even one. -/
def roundHalfEven (num den : Nat) : Nat :=
  let q := num / den
  let r := num % den
  if 2 * r < den then q
  else if den < 2 * r then q + 1
  else q + q % 2

/-- How many bits of a number of units a significand of 53 bits cannot hold. -/
def excess (units : Nat) : Nat :=
  units.log2 - 52

def roundUnits (num den : Nat) : Nat :=
  let k := excess (num / den)
  roundHalfEven num (den * Nat.pow 2 k) * Nat.pow 2 k

def Fits (units : Nat) : Prop :=
  units < Nat.pow 2 2098 ∧ roundUnits units 1 = units

instance (units : Nat) : Decidable (Fits units) :=
  inferInstanceAs (Decidable (_ ∧ _))

def one : Nat := Nat.pow 2 1074

theorem fits_zero : Fits 0 := by decide +kernel

end Binary64

/-- A number of the format binary64; all NaNs are one value. -/
inductive Binary64 where
  | nan
  | infinite (negative : Bool)
  | finite (negative : Bool) (units : Nat) (fits : Binary64.Fits units)
  deriving DecidableEq

namespace Binary64

def zero : Binary64 := .finite false 0 fits_zero

instance : Inhabited Binary64 := ⟨zero⟩

/-- The number nearest to a quotient counted in units; one beyond the range of
the format is an infinity. -/
def ofUnits (negative : Bool) (num den : Nat) : Binary64 :=
  let units := roundUnits num den
  if h : Fits units then .finite negative units h else .infinite negative

def ofInt (n : Int) : Binary64 :=
  ofUnits (decide (n < 0)) (n.natAbs * one) 1

def ofInt? (n : Int) : Option Binary64 :=
  match ofInt n with
  | .infinite _ => none
  | x => some x

/-- The number nearest to a decimal. A power of ten that puts the decimal far
outside the range decides alone, so no large power is ever computed. -/
def ofDecimal (d : Decimal) : Binary64 :=
  if d.mantissa = 0 then ofUnits d.negative 0 1
  else if 400 < d.exponent then .infinite d.negative
  else if d.exponent < -((d.mantissa.log2 + 400 : Nat) : Int) then ofUnits d.negative 0 1
  else
    match d.exponent with
    | .ofNat e => ofUnits d.negative (d.mantissa * Nat.pow 10 e * one) 1
    | .negSucc e => ofUnits d.negative (d.mantissa * one) (Nat.pow 10 (e + 1))

def ofNumeral : Numeral → Binary64
  | .decimal d => ofDecimal d
  | .infinite negative => .infinite negative
  | .nan => .nan

/-- The place of a number in the order of the format, counted in units; the
infinities lie outside all finite numbers and NaN has no place. -/
def rank? : Binary64 → Option Int
  | .nan => none
  | .infinite negative => some (Number.signed negative (Nat.pow 2 2098))
  | .finite negative units _ => some (Number.signed negative units)

/-- Less by value: the two zeros are equal and NaN is not comparable. -/
def lt (x y : Binary64) : Bool :=
  match x.rank?, y.rank? with
  | some a, some b => decide (a < b)
  | _, _ => false

def le (x y : Binary64) : Bool :=
  match x.rank?, y.rank? with
  | some a, some b => decide (a ≤ b)
  | _, _ => false

def isFinite : Binary64 → Bool
  | .finite .. => true
  | _ => false

def add : Binary64 → Binary64 → Binary64
  | .nan, _ | _, .nan => .nan
  | .infinite s, .infinite t => if s = t then .infinite s else .nan
  | .infinite s, .finite .. | .finite .., .infinite s => .infinite s
  | .finite s u _, .finite t v _ =>
    let sum := Number.signed s u + Number.signed t v
    if sum = 0 then ofUnits (s && t) 0 1 else ofUnits (decide (sum < 0)) sum.natAbs 1

def mul : Binary64 → Binary64 → Binary64
  | .nan, _ | _, .nan => .nan
  | .infinite s, .infinite t => .infinite (s != t)
  | .infinite s, .finite t u _ | .finite t u _, .infinite s =>
    if u = 0 then .nan else .infinite (s != t)
  | .finite s u _, .finite t v _ => ofUnits (s != t) (u * v) one

instance : Add Binary64 := ⟨add⟩
instance : Mul Binary64 := ⟨mul⟩

def toInt? : Binary64 → Option Int
  | .finite negative units _ =>
    if units % one = 0 then some (Number.signed negative (units / one)) else none
  | _ => none

def signBit : Nat := 0x8000000000000000

def hiddenBit : Nat := 0x10000000000000

/-- The interchange encoding: sign, biased exponent and trailing significand. -/
def toBits : Binary64 → Nat
  | .nan => 0x7ff8000000000000
  | .infinite negative => (if negative then signBit else 0) + 0x7ff0000000000000
  | .finite negative units _ =>
    let k := excess units
    let magnitude := if units < hiddenBit then units else k * hiddenBit + units / Nat.pow 2 k
    (if negative then signBit else 0) + magnitude

end Binary64

end VersionedStore
