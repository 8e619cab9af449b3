import GraphClient.Number.Double

/-!
# Shortest decimal text

The fewest decimal digits that read back as a double, and of these the nearest to it. They are
written positionally, never with an exponent.
-/

namespace GraphClient

namespace Double

/-- `digits · 10 ^ exponent`. -/
structure Digits where
  digits : Nat
  exponent : Int
  deriving DecidableEq, Repr

/-- The reals that round to a finite positive double, as multiples of `2 ^ unit`. The lower half of
the interval is shorter below a power of two, and the ends belong to an even significand. -/
structure Interval where
  value : Nat
  low : Nat
  high : Nat
  unit : Int
  closed : Bool

def interval (x : Double) : Interval :=
  let m := x.significand
  { value := 4 * m
    low := if m = Nat.pow 2 52 then 4 * m - 1 else 4 * m - 2
    high := 4 * m + 2
    unit := x.exponent - 2
    closed := m % 2 = 0 }

/-- The interval in units of `10 ^ exponent`: value, low and high end over one denominator. -/
structure Grid where
  value : Nat
  low : Nat
  high : Nat
  den : Nat

def Interval.grid (i : Interval) (exponent : Int) : Grid :=
  let scale := (if i.unit < 0 then 1 else Nat.pow 2 i.unit.natAbs) *
    (if exponent < 0 then Nat.pow 10 exponent.natAbs else 1)
  { value := i.value * scale
    low := i.low * scale
    high := i.high * scale
    den := (if i.unit < 0 then Nat.pow 2 i.unit.natAbs else 1) *
      (if exponent < 0 then 1 else Nat.pow 10 exponent.natAbs) }

/-- The grid point nearest to the value among its two neighbours inside the interval, the upper one
of two equally near. -/
def Grid.nearest? (g : Grid) (closed : Bool) : Option Nat :=
  let below := g.value / g.den
  let above := below + 1
  let lowOk := if closed then g.low ≤ below * g.den else g.low < below * g.den
  let highOk := if closed then above * g.den ≤ g.high else above * g.den < g.high
  let upperNearer := above * g.den - g.value ≤ g.value - below * g.den
  if lowOk ∧ highOk then some (if upperNearer then above else below)
  else if lowOk then some below
  else if highOk then some above
  else none

/-- The exponent of the leading decimal digit of `num / den`. -/
def leadingExponent (num den : Nat) : Int :=
  let guess : Int := ((Nat.toDigits 10 num).length : Int) - (Nat.toDigits 10 den).length
  let power := Nat.pow 10 guess.natAbs
  let fits := if guess < 0 then den ≤ num * power else den * power ≤ num
  if fits then guess else guess - 1

/-- Digits without zeros at their end. -/
def Digits.normalize (fuel : Nat) (d : Digits) : Digits :=
  match fuel with
  | 0 => d
  | fuel + 1 =>
    if d.digits % 10 = 0 ∧ d.digits ≠ 0 then
      Digits.normalize fuel ⟨d.digits / 10, d.exponent + 1⟩
    else d

/-- The first grid of `count`, `count + 1`, … digits with a point in the interval. -/
def Interval.search (i : Interval) (leading : Int) : (tries count : Nat) → Digits
  | 0, count =>
    let exponent := leading + 1 - count
    let g := i.grid exponent
    ⟨g.value / g.den, exponent⟩
  | tries + 1, count =>
    let exponent := leading + 1 - count
    match (i.grid exponent).nearest? i.closed with
    | some digits => ⟨digits, exponent⟩
    | none => i.search leading tries (count + 1)

/-- The shortest digits that read back as a finite positive double. -/
def shortest (x : Double) : Digits :=
  (x.interval.search (leadingExponent x.ratio.1 x.ratio.2) 17 1).normalize 20

/-- Digits in positional notation, without a point where there is no fraction. -/
def Digits.positional (d : Digits) : String :=
  let written := Nat.toDigits 10 d.digits
  if 0 ≤ d.exponent then String.ofList (written ++ List.replicate d.exponent.natAbs '0')
  else
    let places := d.exponent.natAbs
    let padded := List.replicate (places + 1 - written.length) '0' ++ written
    let whole := padded.length - places
    String.ofList (padded.take whole ++ '.' :: padded.drop whole)

/-- The positional text of a double. -/
def text (x : Double) : String :=
  if x.isNaN then "NaN"
  else
    let body := if x.isInfinite then "inf" else if x.isZero then "0" else x.shortest.positional
    if x.isNegative then "-" ++ body else body

end Double

end GraphClient
