/-!
# Timestamps

A timestamp counts microseconds since the start of 1970 in UTC. Its text is that of RFC 3339 on the
proleptic Gregorian calendar, with a sign before years outside 0 to 9999.
-/

namespace GraphClient

/-- Microseconds since 1970-01-01T00:00:00 in UTC. -/
structure Timestamp where
  micros : Int
  deriving DecidableEq, Repr, Inhabited

namespace Timestamp

/-- The first microsecond of the year -262143. -/
def least : Int := -8334601228800000000

/-- The last microsecond of the year 262142. -/
def greatest : Int := 8210266876799999999

/-- The timestamp of a count of microseconds within the calendar. -/
def ofMicros? (micros : Int) : Option Timestamp :=
  if least ≤ micros ∧ micros ≤ greatest then some ⟨micros⟩ else none

/-- Year, month and day of a day counted from 1970-01-01. Years begin in March here, so that a leap
day is the last of its year, and 400 years are 146097 days. -/
def dateOfDays (days : Int) : Int × Nat × Nat :=
  let shifted := days + 719468
  let era := Int.fdiv shifted 146097
  let dayOfEra := (Int.fmod shifted 146097).toNat
  let yearOfEra :=
    (dayOfEra - dayOfEra / 1460 + dayOfEra / 36524 - dayOfEra / 146096) / 365
  let dayOfYear := dayOfEra - (365 * yearOfEra + yearOfEra / 4 - yearOfEra / 100)
  let monthFromMarch := (5 * dayOfYear + 2) / 153
  let day := dayOfYear - (153 * monthFromMarch + 2) / 5 + 1
  let month := if monthFromMarch < 10 then monthFromMarch + 3 else monthFromMarch - 9
  let year : Int := yearOfEra + era * 400
  (if month ≤ 2 then year + 1 else year, month, day)

/-- A number with zeros in front up to a width. -/
def padded (width n : Nat) : String :=
  let digits := Nat.toDigits 10 n
  String.ofList (List.replicate (width - digits.length) '0' ++ digits)

def yearText (year : Int) : String :=
  if 0 ≤ year ∧ year ≤ 9999 then padded 4 year.natAbs
  else (if year < 0 then "-" else "+") ++ padded 4 year.natAbs

/-- A fraction of a second in three or six places, as many as it needs. -/
def fractionText (micros : Nat) : String :=
  if micros = 0 then ""
  else if micros % 1000 = 0 then "." ++ padded 3 (micros / 1000)
  else "." ++ padded 6 micros

/-- Date and time of day, without the offset. -/
def localText (t : Timestamp) : String :=
  let days := Int.fdiv t.micros 86400000000
  let micros := (Int.fmod t.micros 86400000000).toNat
  let seconds := micros / 1000000
  let (year, month, day) := dateOfDays days
  yearText year ++ "-" ++ padded 2 month ++ "-" ++ padded 2 day ++ "T" ++
    padded 2 (seconds / 3600) ++ ":" ++ padded 2 (seconds / 60 % 60) ++ ":" ++
    padded 2 (seconds % 60) ++ fractionText (micros % 1000000)

/-- The text with a numeric offset. -/
def text (t : Timestamp) : String := t.localText ++ "+00:00"

/-- The text with the letter for UTC. -/
def textZulu (t : Timestamp) : String := t.localText ++ "Z"

end Timestamp

end GraphClient
