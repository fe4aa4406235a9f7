/-!
# Binary floats

The magnitudes of 64-bit floats: which one is nearest to a decimal, and the fewest digits that
identify one. All arithmetic is exact, on natural numbers.
-/

namespace PrototypeLens.Decimal

/-- A magnitude: `significand * 2 ^ exponent`, with at most 53 bits and an exponent from -1074 to
971, or infinity. -/
inductive Magnitude where
  | finite (significand : Nat) (exponent : Int)
  | infinite
deriving DecidableEq, Repr

/-- The quotient that is `n * base ^ power`. -/
def scaled (n base : Nat) (power : Int) : Nat × Nat :=
  if 0 ≤ power then (n * base.pow power.toNat, 1) else (n, base.pow (-power).toNat)

/-- The integer nearest to a quotient, the even one of two. -/
def roundHalfEven (num den : Nat) : Nat :=
  let floor := num / den
  let rest := 2 * (num % den)
  if rest < den || (rest == den && floor % 2 == 0) then floor else floor + 1

/-- Divides a quotient by a power of two. -/
def divideByPower (num den : Nat) (power : Int) : Nat × Nat :=
  if 0 ≤ power then (num, den * Nat.pow 2 power.toNat) else (num * Nat.pow 2 (-power).toNat, den)

/-- The exponent of the magnitude next below a quotient. -/
def exponentOf (num den : Nat) : Int :=
  -- The quotient of the logarithms is off by one at most, which the comparison below settles.
  let guess : Int := (num.log2 : Int) - den.log2 - 53
  let (n, d) := divideByPower num den guess
  max (-1074) (if n / d < Nat.pow 2 53 then guess else guess + 1)

/-- The magnitude nearest to a quotient. -/
def nearest (num den : Nat) : Magnitude :=
  let exponent := exponentOf num den
  let (n, d) := divideByPower num den exponent
  let significand := roundHalfEven n d
  -- Rounding up may carry into a bit of its own.
  let (significand, exponent) :=
    if significand = Nat.pow 2 53 then (Nat.pow 2 52, exponent + 1) else (significand, exponent)
  if 971 < exponent then .infinite else .finite significand exponent

/-- The magnitude nearest to `n * 10 ^ power`. -/
def nearestToDecimal (n : Nat) (power : Int) : Magnitude :=
  -- Powers outside of the range of floats are never computed.
  let digits : Int := (Nat.toDigits 10 n).length + power
  if n = 0 || digits < -330 then .finite 0 (-1074)
  else if 320 < digits then .infinite
  else nearest (scaled n 10 power).1 (scaled n 10 power).2

/-- Whether `a * 10 ^ power` lies below `b * 2 ^ exponent`. -/
def liesBelow (a : Nat) (power : Int) (b : Nat) (exponent : Int) : Bool :=
  let (n, d) := scaled a 10 power
  let (m, e) := scaled b 2 exponent
  n * e < m * d

/-- Whether `a * 10 ^ power` lies above `b * 2 ^ exponent`. -/
def liesAbove (a : Nat) (power : Int) (b : Nat) (exponent : Int) : Bool :=
  let (n, d) := scaled a 10 power
  let (m, e) := scaled b 2 exponent
  m * d < n * e

/-- Whether a decimal rounds to a magnitude. The ends of the interval belong to it where the
significand is even, and below a power of two the interval is half as wide. -/
def roundsTo (a : Nat) (power : Int) (significand : Nat) (exponent : Int) : Bool :=
  let low := 4 * significand - (if significand = Nat.pow 2 52 && -1074 < exponent then 1 else 2)
  let high := 4 * significand + 2
  if significand % 2 = 0 then
    !liesBelow a power low (exponent - 2) && !liesAbove a power high (exponent - 2)
  else liesAbove a power low (exponent - 2) && liesBelow a power high (exponent - 2)

/-- The decimal with a given power that is next below a magnitude. -/
def floorAt (significand : Nat) (exponent power : Int) : Nat :=
  let (m, e) := scaled significand 2 exponent
  let (n, d) := scaled 1 10 power
  m * d / (e * n)

/-- The decimal with a given power that rounds to a magnitude, the nearer one of two; if both are as
near, the greater one. -/
def digitsAt? (significand : Nat) (exponent power : Int) : Option Nat :=
  let below := floorAt significand exponent power
  let above := below + 1
  match roundsTo below power significand exponent, roundsTo above power significand exponent with
  | true, true =>
    -- the middle of the two neighbours decides
    if liesAbove (below + above) power (2 * significand) exponent then some below else some above
  | true, false => some below
  | false, true => some above
  | false, false => none

/-- The fewest digits that identify a magnitude, with the power of ten of the last one: the powers
are tried downwards, at most `limit` of them. -/
def shortestFrom (significand : Nat) (exponent : Int) : Nat → Int → Nat × Int
  | 0, power => (floorAt significand exponent power, power)
  | limit + 1, power =>
    match digitsAt? significand exponent power with
    -- Ten in the last place is one in the place before.
    | some 10 => (1, power + 1)
    | some n => (n, power)
    | none => shortestFrom significand exponent limit (power - 1)

/-- The power of ten of the first digit of a magnitude that is not zero. -/
def leadingPower (significand : Nat) (exponent : Int) : Int :=
  let (m, e) := scaled significand 2 exponent
  let guess : Int := (Nat.toDigits 10 m).length - (Nat.toDigits 10 e).length
  if liesAbove 1 guess significand exponent then guess - 1 else guess

/-- The fewest digits that identify a magnitude that is not zero. -/
def shortest (significand : Nat) (exponent : Int) : Nat × Int :=
  shortestFrom significand exponent 18 (leadingPower significand exponent)

/-- Digits without an exponent: zeros behind them, a point between them, or zeros and a point in
front of them. -/
def positional (digits : List Char) (power : Int) : List Char :=
  if 0 ≤ power then digits ++ List.replicate power.toNat '0'
  else
    let places := (-power).toNat
    let padded := List.replicate (places + 1 - digits.length) '0' ++ digits
    padded.take (padded.length - places) ++ '.' :: padded.drop (padded.length - places)

/-- The text of a magnitude: the fewest digits that identify it, never with an exponent. -/
def Magnitude.text : Magnitude → String
  | .infinite => "inf"
  | .finite significand exponent =>
    if significand = 0 then "0"
    else
      let (n, power) := shortest significand exponent
      String.ofList (positional (Nat.toDigits 10 n) power)

def Magnitude.isZero : Magnitude → Bool
  | .infinite => false
  | .finite significand _ => significand == 0

/-- The order of magnitudes. -/
def Magnitude.compare : Magnitude → Magnitude → Ordering
  | .infinite, .infinite => .eq
  | .infinite, _ => .gt
  | _, .infinite => .lt
  | .finite m e, .finite n f =>
    let (a, b) := scaled m 2 e
    let (c, d) := scaled n 2 f
    Ord.compare (a * d) (c * b)

end PrototypeLens.Decimal
