/-!
# Instants and the civil calendar

An `Instant` counts seconds from 1970-01-01T00:00:00Z and nanoseconds within the second; a leap
second is the last second of its minute with a nanosecond count of at least `10^9`. Dates are those
of the proleptic Gregorian calendar. The supported years run from -262143 to 262142.
-/

namespace LiveFlags

/-- A point in time. -/
structure Instant where
  seconds : Int
  nanos : Nat
deriving DecidableEq, Repr, Inhabited

namespace Calendar

def secondsPerDay : Int := 86400

/-- Days from 1970-01-01 to a date. Years start in March here, so that a leap day is the last. -/
def daysFromDate (year : Int) (month day : Nat) : Int :=
  let y := if month ≤ 2 then year - 1 else year
  let era := y.fdiv 400
  let yearOfEra := y - era * 400
  let monthFromMarch : Int := (month + 9) % 12
  let dayOfYear := (153 * monthFromMarch + 2).fdiv 5 + day - 1
  let dayOfEra := yearOfEra * 365 + yearOfEra.fdiv 4 - yearOfEra.fdiv 100 + dayOfYear
  era * 146097 + dayOfEra - 719468

/-- Year, month and day of a number of days from 1970-01-01. -/
def dateFromDays (days : Int) : Int × Nat × Nat :=
  let z := days + 719468
  let era := z.fdiv 146097
  let dayOfEra := z - era * 146097
  let yearOfEra :=
    (dayOfEra - dayOfEra.fdiv 1460 + dayOfEra.fdiv 36524 - dayOfEra.fdiv 146096).fdiv 365
  let dayOfYear := dayOfEra - (365 * yearOfEra + yearOfEra.fdiv 4 - yearOfEra.fdiv 100)
  let monthFromMarch := (5 * dayOfYear + 2).fdiv 153
  let day := dayOfYear - (153 * monthFromMarch + 2).fdiv 5 + 1
  let month := if monthFromMarch < 10 then monthFromMarch + 3 else monthFromMarch - 9
  let year := yearOfEra + era * 400 + (if month ≤ 2 then 1 else 0)
  (year, month.toNat, day.toNat)

def isLeapYear (year : Int) : Bool :=
  year % 4 = 0 && (year % 100 ≠ 0 || year % 400 = 0)

def daysInMonth (year : Int) (month : Nat) : Nat :=
  if month = 2 then if isLeapYear year then 29 else 28
  else if month = 4 ∨ month = 6 ∨ month = 9 ∨ month = 11 then 30
  else 31

def firstYear : Int := -262143

def lastYear : Int := 262142

/-- Whether a date exists and its year is supported. -/
def isDate (year : Int) (month day : Nat) : Bool :=
  firstYear ≤ year && year ≤ lastYear && 1 ≤ month && month ≤ 12 && 1 ≤ day &&
    day ≤ daysInMonth year month

/-- The first supported second. -/
def firstSecond : Int := daysFromDate firstYear 1 1 * secondsPerDay

/-- The last supported second. -/
def lastSecond : Int := (daysFromDate lastYear 12 31 + 1) * secondsPerDay - 1

end Calendar

namespace Instant

/-- Whether the instant lies in a supported year. -/
def isSupported (t : Instant) : Bool :=
  Calendar.firstSecond ≤ t.seconds && t.seconds ≤ Calendar.lastSecond

/-- The instant a number of milliseconds after the epoch, if its year is supported. -/
def ofMillis? (ms : Int) : Option Instant :=
  let t : Instant := ⟨ms.fdiv 1000, (ms.fmod 1000).toNat * 1000000⟩
  if t.isSupported then some t else none

/-- Whole milliseconds after the epoch. -/
def toMillis (t : Instant) : Int :=
  t.seconds * 1000 + (t.nanos / 1000000 : Nat)

end Instant

end LiveFlags
