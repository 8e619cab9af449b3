import GraphClient.Number.Double

/-!
# Decimal numbers

Digits and signs of whole numbers, and the reading of a decimal fraction as the nearest number of
a binary format.
-/

namespace GraphClient

namespace Decimal

/-- The value of an ASCII digit. -/
def digit? (c : Char) : Option Nat :=
  if '0' ≤ c ∧ c ≤ '9' then some (c.toNat - '0'.toNat) else none

def isDigit (c : Char) : Bool := (digit? c).isSome

/-- The number that digits write; characters that are no digits count as zeros. -/
def value (digits : List Char) : Nat :=
  digits.foldl (fun n c => 10 * n + (digit? c).getD 0) 0

/-- One or more digits. -/
def nat? (text : List Char) : Option Nat :=
  if text.isEmpty || !text.all isDigit then none else some (value text)

/-- A sign, if there is one, and the text after it; true for minus. -/
def sign : List Char → Bool × List Char
  | '-' :: rest => (true, rest)
  | '+' :: rest => (false, rest)
  | text => (false, text)

/-- One or more digits after an optional sign. -/
def int? (text : List Char) : Option Int :=
  let (negative, digits) := sign text
  (nat? digits).map fun n => if negative then -(n : Int) else n

/-- A 64-bit integer in decimal, with an optional sign. -/
def int64? (text : List Char) : Option Int64 :=
  (int? text).bind fun n =>
    if Int64.minValue.toInt ≤ n ∧ n ≤ Int64.maxValue.toInt then some (Int64.ofInt n) else none

/-- A 16-bit natural number in decimal, with an optional plus sign. -/
def uint16? (text : List Char) : Option UInt16 :=
  let digits := match text with
    | '+' :: rest => rest
    | text => text
  (nat? digits).bind fun n => if n < Nat.pow 2 16 then some (UInt16.ofNat n) else none

end Decimal

/-- A decimal fraction `± digits · 10 ^ exponent`. -/
structure DecimalFraction where
  negative : Bool
  digits : Nat
  exponent : Int
  deriving DecidableEq, Repr

namespace DecimalFraction

/-- An exponent, if there is one: a mark, an optional sign and one or more digits. -/
def exponentPart? : List Char → Option Int
  | [] => some 0
  | c :: rest => if c = 'e' ∨ c = 'E' then Decimal.int? rest else none

/-- Digits with at most one point among them, then an optional exponent. -/
def unsigned? (negative : Bool) (text : List Char) : Option DecimalFraction :=
  let whole := text.takeWhile Decimal.isDigit
  let rest := text.dropWhile Decimal.isDigit
  let (fraction, rest) := match rest with
    | '.' :: rest => (rest.takeWhile Decimal.isDigit, rest.dropWhile Decimal.isDigit)
    | rest => ([], rest)
  if whole.isEmpty && fraction.isEmpty then none
  else (exponentPart? rest).map fun exponent =>
    ⟨negative, Decimal.value (whole ++ fraction), exponent - fraction.length⟩

/-- The number of decimal digits of a natural number, zero having none. -/
def digitCount (n : Nat) : Nat := if n = 0 then 0 else (Nat.toDigits 10 n).length

/-- A quotient equal to the magnitude. Beyond 400 places either way every binary format is left,
and a fixed far quotient stands in for the exact one. -/
def ratio (x : DecimalFraction) : Nat × Nat :=
  let places : Int := digitCount x.digits + x.exponent
  if x.digits = 0 then (0, 1)
  else if places > 400 then (Nat.pow 10 400, 1)
  else if places < -400 then (1, Nat.pow 10 400)
  else if x.exponent < 0 then (x.digits, Nat.pow 10 x.exponent.natAbs)
  else (x.digits * Nat.pow 10 x.exponent.natAbs, 1)

/-- The nearest double. -/
def toDouble (x : DecimalFraction) : Double := Double.nearest x.negative x.ratio.1 x.ratio.2

/-- The nearest single precision number, as a double. -/
def toSingle (x : DecimalFraction) : Double :=
  match BinaryFormat.single.round x.ratio.1 x.ratio.2 with
  | none => Double.infinity x.negative
  | some (significand, exponent) =>
    if exponent < 0 then Double.nearest x.negative significand (Nat.pow 2 exponent.natAbs)
    else Double.nearest x.negative (significand * Nat.pow 2 exponent.natAbs) 1

end DecimalFraction

namespace Double

/-- Texts of a number after the sign: a decimal fraction or the name of a special value, in any
letter case. -/
def unsignedText? (convert : DecimalFraction → Double) (negative : Bool) (text : List Char) :
    Option Double :=
  let lower := text.map Char.toLower
  if lower = ['i', 'n', 'f'] ∨ lower = ['i', 'n', 'f', 'i', 'n', 'i', 't', 'y'] then
    some (infinity negative)
  else if lower = ['n', 'a', 'n'] then some nan
  else (DecimalFraction.unsigned? negative text).map convert

/-- The double that a text names, after an optional sign. -/
def ofText? (text : String) : Option Double :=
  let (negative, rest) := Decimal.sign text.toList
  unsignedText? DecimalFraction.toDouble negative rest

/-- The single precision number that a text names, as a double. -/
def ofSingleText? (text : String) : Option Double :=
  let (negative, rest) := Decimal.sign text.toList
  unsignedText? DecimalFraction.toSingle negative rest

end Double

end GraphClient
