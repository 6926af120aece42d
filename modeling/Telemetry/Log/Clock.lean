import Telemetry.Decimal.Style

/-!
# Points in time

* `Log.Clock`: a point in time of the Gregorian calendar, without a time zone.
* `Clock.ofUnix`: the point in time a number of microseconds after the beginning of 1970.
* `Clock.timestamp`: the time at the beginning of a log line.
-/

namespace Telemetry.Log

/-- A point in time. -/
structure Clock where
  year : Nat
  month : Nat
  day : Nat
  hour : Nat
  minute : Nat
  second : Nat := 0
  micro : Nat := 0
  deriving DecidableEq

/-- A number of `width` digits at least. -/
def paddedNumber (width n : Nat) : String :=
  let digits := digitChars n
  String.ofList (List.replicate (width - digits.length) '0' ++ digits)

namespace Clock

/-- Days from the first of March of the year zero to the beginning of 1970. -/
def epochDays : Nat := 719468

/-- Days in four hundred years. -/
def eraDays : Nat := 146097

/-- Year, month and day after a number of days from the beginning of 1970. Years are counted from
the first of March on, so that a leap day is the last day of its year. -/
def civil (days : Nat) : Nat × Nat × Nat :=
  let n := days + epochDays
  let inEra := n % eraDays
  let yearOfEra := (inEra - inEra / 1460 + inEra / 36524 - inEra / 146096) / 365
  let inYear := inEra - (365 * yearOfEra + yearOfEra / 4 - yearOfEra / 100)
  let fromMarch := (5 * inYear + 2) / 153
  let month := if fromMarch < 10 then fromMarch + 3 else fromMarch - 9
  let year := yearOfEra + n / eraDays * 400
  (if month ≤ 2 then year + 1 else year, month, inYear - (153 * fromMarch + 2) / 5 + 1)

/-- The point in time so many microseconds after the beginning of 1970. -/
def ofUnix (micros : Nat) : Clock :=
  let seconds := micros / 1000000
  let (year, month, day) := civil (seconds / 86400)
  let inDay := seconds % 86400
  { year, month, day, hour := inDay / 3600, minute := inDay / 60 % 60, second := inDay % 60,
    micro := micros % 1000000 }

/-- The date, its parts joined by hyphens. -/
def date (c : Clock) : String :=
  paddedNumber 4 c.year ++ "-" ++ paddedNumber 2 c.month ++ "-" ++ paddedNumber 2 c.day

/-- The time at the beginning of a log line. -/
def timestamp (c : Clock) : String :=
  c.date ++ "T" ++ paddedNumber 2 c.hour ++ ":" ++ paddedNumber 2 c.minute ++ ":" ++
    paddedNumber 2 c.second ++ "." ++ paddedNumber 6 c.micro ++ "Z"

end Clock

end Telemetry.Log
