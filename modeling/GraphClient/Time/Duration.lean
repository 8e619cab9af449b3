/-!
# Durations and instants

Durations count nanoseconds. An instant is a duration since the origin of the clock, and the clock
has a last instant; a deadline beyond it is moved to a fixed far future, which late in the life of
the clock may be beyond it as well.
-/

namespace GraphClient

/-- A length of time in nanoseconds. -/
structure Duration where
  nanos : Nat
  deriving DecidableEq, Repr, Inhabited

namespace Duration

def ofMillis (n : Nat) : Duration := ⟨n * 1000000⟩

def ofSeconds (n : Nat) : Duration := ⟨n * 1000000000⟩

/-- The longest duration: 64 bits of seconds and a fraction. -/
def longest : Duration := ⟨Nat.pow 2 64 * 1000000000 - 1⟩

def isZero (d : Duration) : Bool := d.nanos = 0

/-- `value / unit` in decimal, without zeros at the end of the fraction. -/
def decimalText (value unit : Nat) : String :=
  let fraction := Nat.toDigits 10 (unit + value % unit)
  let fraction := (fraction.drop 1).reverse.dropWhile (· == '0')
  let whole := toString (value / unit)
  if fraction.isEmpty then whole else whole ++ "." ++ String.ofList fraction.reverse

/-- The duration in the largest unit that it reaches. -/
def text (d : Duration) : String :=
  if 1000000000 ≤ d.nanos then decimalText d.nanos 1000000000 ++ "s"
  else if 1000000 ≤ d.nanos then decimalText d.nanos 1000000 ++ "ms"
  else if 1000 ≤ d.nanos then decimalText d.nanos 1000 ++ "µs"
  else toString d.nanos ++ "ns"

end Duration

/-- A point in time, in nanoseconds since the origin of the clock. -/
structure Instant where
  nanos : Nat
  deriving DecidableEq, Repr, Inhabited

namespace Instant

instance : LE Instant := ⟨fun a b => a.nanos ≤ b.nanos⟩

instance (a b : Instant) : Decidable (a ≤ b) := inferInstanceAs (Decidable (a.nanos ≤ b.nanos))

instance : LT Instant := ⟨fun a b => a.nanos < b.nanos⟩

instance (a b : Instant) : Decidable (a < b) := inferInstanceAs (Decidable (a.nanos < b.nanos))

/-- The first instant that the clock cannot show: 63 bits of seconds are full. -/
def limit : Nat := Nat.pow 2 63 * 1000000000

/-- The instant a duration later, unless the clock cannot show it. -/
def add? (start : Instant) (d : Duration) : Option Instant :=
  if start.nanos + d.nanos < limit then some ⟨start.nanos + d.nanos⟩ else none

/-- Thirty years of 365 days: the longest wait for a deadline that the clock cannot show. -/
def farFuture : Duration := Duration.ofSeconds (86400 * 365 * 30)

/-- The instant a duration later, or in the far future if the clock cannot show that one. -/
def deadlineAfter (start : Instant) (d : Duration) : Instant :=
  (start.add? d).getD ⟨start.nanos + farFuture.nanos⟩

/-- The deadline a duration after an instant, if the clock can show that instant or at least the one
in the far future. -/
def deadline? (start : Instant) (d : Duration) : Option Instant :=
  (start.add? d).or (start.add? farFuture)

/-- The first whole millisecond of the clock at or after an instant. -/
def ceilMillis (t : Instant) : Nat := (t.nanos + 999999) / 1000000

def ofMillis (n : Nat) : Instant := ⟨n * 1000000⟩

/-- Whole milliseconds since the origin. -/
def millis (t : Instant) : Nat := t.nanos / 1000000

end Instant

end GraphClient
