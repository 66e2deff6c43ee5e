/-!
Punycode: rows of any code points as texts of letters, digits and the hyphen.
The ASCII characters come first; what follows tells, in the order of their code
points, where each of the other characters is to be inserted. Each step is a
number with digits to the base 36 whose last digit is below a threshold, and the
thresholds adapt to the size of the steps.
-/

namespace VersionedStore.HostName.Punycode

def digitChar (d : Nat) : Char :=
  if d < 26 then Char.ofNat ('a'.toNat + d) else Char.ofNat ('0'.toNat + (d - 26))

def digit? (c : Char) : Option Nat :=
  if c.isLower then some (c.toNat - 'a'.toNat)
  else if c.isUpper then some (c.toNat - 'A'.toNat)
  else if c.isDigit then some (c.toNat - '0'.toNat + 26)
  else none

def firstBias : Nat := 72

def firstCode : Nat := 0x80

def threshold (bias j : Nat) : Nat :=
  if 36 * (j + 1) ≤ bias + 1 then 1 else min 26 (36 * (j + 1) - bias)

theorem threshold_pos (bias j : Nat) : 0 < threshold bias j := by
  unfold threshold
  split <;> omega

theorem threshold_le (bias j : Nat) : threshold bias j ≤ 26 := by
  unfold threshold
  split <;> omega

/-- How often the base fits into a step, and what is left of it. -/
def settle (k delta : Nat) : Nat × Nat :=
  if 455 < delta then settle (k + 36) (delta / 35) else (k, delta)
termination_by delta
decreasing_by exact Nat.div_lt_self (by omega) (by omega)

def adapt (delta count : Nat) (first : Bool) : Nat :=
  let delta := if first then delta / 700 else delta / 2
  let (k, delta) := settle 0 (delta + delta / count)
  k + 36 * delta / (delta + 38)

def writeStep (bias j q : Nat) : List Char :=
  let t := threshold bias j
  if q < t then [digitChar q]
  else digitChar (t + (q - t) % (36 - t)) :: writeStep bias (j + 1) ((q - t) / (36 - t))
termination_by q
decreasing_by
  have h1 := threshold_pos bias j
  have h2 := threshold_le bias j
  have h3 := Nat.div_le_self (q - threshold bias j) (36 - threshold bias j)
  omega

/-- The places of a character in a text, each with the number of characters
below it that stand before the place and after the one before. `gap` counts
those since the last place. -/
def gaps (code gap : Nat) : List Nat → List Nat × Nat
  | [] => ([], gap)
  | n :: ns =>
    if n < code then gaps code (gap + 1) ns
    else if n = code then
      let (steps, rest) := gaps code 0 ns
      (gap :: steps, rest)
    else gaps code gap ns

/-- The steps of one character, and the bias, the count and the delta after
them. The first step carries what has gathered in `delta`. -/
def writeSteps (bias count delta : Nat) (first : Bool) : List Nat → List Char × Nat × Nat × Nat
  | [] => ([], bias, count, delta)
  | gap :: gaps =>
    let step := delta + gap
    let bias' := adapt step (count + 1) first
    let (text, rest) := writeSteps bias' (count + 1) 0 false gaps
    (writeStep bias 0 step ++ text, rest)

/-- The steps of all characters of a sorted list, from code point `code` on,
when `count` characters are in place. -/
def writeCodes (ns : List Nat) (code bias count delta : Nat) (first : Bool) :
    List Nat → List Char
  | [] => []
  | m :: ms =>
    let (steps, gap) := gaps m 0 ns
    let (text, bias, count', delta') :=
      writeSteps bias count (delta + (m - code) * (count + 1)) first steps
    text ++ writeCodes ns (m + 1) bias count' (delta' + gap + 1) false ms

def encode (ns : List Nat) : List Char :=
  let basic := (ns.filter (· < firstCode)).map Char.ofNat
  let codes := ((ns.filter (firstCode ≤ ·)).mergeSort (· ≤ ·)).eraseDups
  basic ++ (if basic.isEmpty then [] else ['-']) ++
    writeCodes ns firstCode firstBias basic.length 0 true codes

def readStep (bias j weight : Nat) : List Char → Option (Nat × List Char)
  | [] => none
  | c :: cs =>
    match digit? c with
    | none => none
    | some d =>
      let t := threshold bias j
      if d < t then some (d * weight, cs)
      else (readStep bias (j + 1) (weight * (36 - t)) cs).map fun (n, rest) => (d * weight + n, rest)

/-- The last code point. Not all of those below it are characters. -/
def lastCode : Nat := 0x10ffff

/-- The row after the steps of `cs`; `place` is where the next of the same code
points would go. -/
def insertAll (fuel : Nat) (code bias place : Nat) (first : Bool) (done : List Nat)
    (cs : List Char) : Option (List Nat) :=
  match fuel, cs with
  | _, [] => some done
  | 0, _ => none
  | fuel + 1, cs =>
    match readStep bias 0 1 cs with
    | none => none
    | some (step, rest) =>
      let count := done.length + 1
      let place := place + step
      let code := code + place / count
      if code ≤ lastCode then
        let i := place % count
        insertAll fuel code (adapt step count first) (i + 1) false
          (done.take i ++ code :: done.drop i) rest
      else none

def decode? (cs : List Char) : Option (List Nat) :=
  let (basic, steps) :=
    match cs.reverse.span (· != '-') with
    | (after, _ :: before) => (before.reverse, after.reverse)
    | (_, []) => ([], cs)
  insertAll steps.length firstCode firstBias 0 true (basic.map Char.toNat) steps

end VersionedStore.HostName.Punycode
