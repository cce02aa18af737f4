/-!
# The calendar

Days counted from 1 January 1970 against dates of the Gregorian calendar, extended without a break
in both directions. The year is taken to start in March, so that the leap day is its last day, and
400 years always have the same number of days.
-/

namespace PuppetRegistry.Calendar

structure Date where
  year : Int
  month : Nat
  day : Nat
  deriving DecidableEq, Repr

def daysOfEra : Int := 146097

/-- The days from 1 March of the year 0 to 1 January 1970. -/
def epochOffset : Int := 719468

def dayNumber (date : Date) : Int :=
  let year := if date.month ≤ 2 then date.year - 1 else date.year
  let era := year / 400
  let yearOfEra := year % 400
  let month : Int := ((date.month + 9) % 12 : Nat)
  let dayOfYear := (153 * month + 2) / 5 + date.day - 1
  let dayOfEra := yearOfEra * 365 + yearOfEra / 4 - yearOfEra / 100 + dayOfYear
  era * daysOfEra + dayOfEra - epochOffset

def dateOf (days : Int) : Date :=
  let shifted := days + epochOffset
  let era := shifted / daysOfEra
  let dayOfEra := shifted % daysOfEra
  let yearOfEra :=
    (dayOfEra - dayOfEra / 1460 + dayOfEra / 36524 - dayOfEra / 146096) / 365
  let dayOfYear := dayOfEra - (365 * yearOfEra + yearOfEra / 4 - yearOfEra / 100)
  let month := (5 * dayOfYear + 2) / 153
  let day := dayOfYear - (153 * month + 2) / 5 + 1
  let month := if month < 10 then month + 3 else month - 9
  let year := yearOfEra + era * 400
  ⟨if month ≤ 2 then year + 1 else year, month.toNat, day.toNat⟩

end PuppetRegistry.Calendar
