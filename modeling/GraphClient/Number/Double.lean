/-!
# Doubles

A double is its 64 bits, so every operation on it is a function of numbers that proofs can see.
A finite double is `significand · 2 ^ exponent` with a sign; a quotient of naturals is rounded to
the nearest number of a binary format, a tie going to the even significand.
-/

namespace GraphClient

/-- A double precision floating point number, given by its bits. -/
structure Double where
  bits : UInt64
  deriving DecidableEq, Repr, Inhabited

/-- A binary format: digits of the significand, exponent of the least positive number, and
the largest exponent of a finite number. -/
structure BinaryFormat where
  precision : Nat
  leastExponent : Int
  largestExponent : Int

namespace BinaryFormat

def double : BinaryFormat := ⟨53, -1074, 971⟩

def single : BinaryFormat := ⟨24, -149, 104⟩

/-- The quotient nearest to `num / den`, a tie going to the even one. -/
def divideToEven (num den : Nat) : Nat :=
  let quotient := num / den
  let twice := 2 * (num % den)
  if twice < den then quotient
  else if twice = den ∧ quotient % 2 = 0 then quotient
  else quotient + 1

/-- `num / (den · 2 ^ exponent)` as a quotient of naturals. -/
def descale (num den : Nat) (exponent : Int) : Nat × Nat :=
  let power := Nat.pow 2 exponent.natAbs
  if exponent < 0 then (num * power, den) else (num, den * power)

/-- The significand and exponent nearest to `num / den`, or `none` where every finite number of
the format is too small. -/
def round (format : BinaryFormat) (num den : Nat) : Option (Nat × Int) :=
  let guess : Int := (Nat.log2 num : Int) - Nat.log2 den - (format.precision - 1)
  let (n, d) := descale num den guess
  let fitted := if n < Nat.pow 2 (format.precision - 1) * d then guess - 1 else guess
  let exponent := max fitted format.leastExponent
  let (n, d) := descale num den exponent
  let significand := divideToEven n d
  let (significand, exponent) :=
    if significand = Nat.pow 2 format.precision then
      (Nat.pow 2 (format.precision - 1), exponent + 1)
    else (significand, exponent)
  if exponent > format.largestExponent then none else some (significand, exponent)

end BinaryFormat

namespace Double

def signBit : Nat := Nat.pow 2 63

/-- Bits of the positive infinity; larger magnitudes are not numbers. -/
def infinityBits : Nat := 2047 * Nat.pow 2 52

/-- The bits without the sign. -/
def magnitude (x : Double) : Nat := x.bits.toNat % signBit

def isNegative (x : Double) : Bool := signBit ≤ x.bits.toNat

def isNaN (x : Double) : Bool := infinityBits < x.magnitude

def isInfinite (x : Double) : Bool := x.magnitude = infinityBits

def isFinite (x : Double) : Bool := x.magnitude < infinityBits

def isZero (x : Double) : Bool := x.magnitude = 0

/-- The significand of a finite double. -/
def significand (x : Double) : Nat :=
  if x.magnitude < Nat.pow 2 52 then x.magnitude else Nat.pow 2 52 + x.magnitude % Nat.pow 2 52

/-- The exponent of the last place of a finite double's significand. -/
def exponent (x : Double) : Int :=
  if x.magnitude < Nat.pow 2 52 then -1074 else (x.magnitude / Nat.pow 2 52 : Nat) - 1075

/-- The double with the given sign and magnitude bits. -/
def ofMagnitude (negative : Bool) (magnitude : Nat) : Double :=
  ⟨UInt64.ofNat (if negative then signBit + magnitude else magnitude)⟩

def zero (negative : Bool) : Double := ofMagnitude negative 0

def infinity (negative : Bool) : Double := ofMagnitude negative infinityBits

def nan : Double := ⟨0x7ff8000000000000⟩

/-- The double nearest to `num / den`. The magnitude counts the doubles below it, so a significand
and an exponent are put together by one sum. -/
def nearest (negative : Bool) (num den : Nat) : Double :=
  if num = 0 then zero negative
  else match BinaryFormat.double.round num den with
    | none => infinity negative
    | some (significand, exponent) =>
      ofMagnitude negative ((exponent + 1074).toNat * Nat.pow 2 52 + significand)

/-- The magnitude of a finite double as a quotient of naturals. -/
def ratio (x : Double) : Nat × Nat :=
  if x.exponent < 0 then (x.significand, Nat.pow 2 x.exponent.natAbs)
  else (x.significand * Nat.pow 2 x.exponent.natAbs, 1)

/-- The double nearest to the product of two finite magnitudes. -/
def product (x y : Double) : Double :=
  nearest false (x.ratio.1 * y.ratio.1) (x.ratio.2 * y.ratio.2)

/-- The double nearest to the quotient of two finite magnitudes. -/
def quotient (x y : Double) : Double :=
  nearest false (x.ratio.1 * y.ratio.2) (x.ratio.2 * y.ratio.1)

def ofNat (n : Nat) : Double := nearest false n 1

def ofInt (n : Int) : Double := nearest (n < 0) n.natAbs 1

/-- The double with the sign of its magnitude turned round. -/
def negate (x : Double) : Double := ofMagnitude (!x.isNegative) x.magnitude

/-- Equality of the numbers: the zeros are equal and what is not a number equals nothing. -/
def same (x y : Double) : Bool :=
  !x.isNaN && !y.isNaN && (x == y || (x.isZero && y.isZero))

end Double

end GraphClient
