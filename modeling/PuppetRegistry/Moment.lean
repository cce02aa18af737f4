import PuppetRegistry.Binary64.Basic
import PuppetRegistry.Calendar
import PuppetRegistry.Conversion

/-!
# Moments

An instant, to the microsecond, together with the offset from UTC at which it is read. The offset is
less than a day and the reading lies in the years 1 to 9999, which is part of the type. Storage
keeps whole seconds since 1970: `ofUnix?` reads one, with no moment for zero and below, and
`unixSeconds` writes one by way of a floating-point number of seconds, which is exact for some five
centuries on either side of 1970.
-/

namespace PuppetRegistry

def microsPerSecond : Int := 1000000

def secondsPerDay : Int := 86400

def microsPerDay : Int := 86400000000

/-- The first second of the year 1, counted from 1970. -/
def firstSecond : Int := -62135596800

/-- The first second after the year 9999. -/
def endSecond : Int := 253402300800

@[ext] structure Moment where
  /-- Microseconds since 1 January 1970, UTC. -/
  micros : Int
  /-- Microseconds east of UTC. -/
  offset : Int
  nearUtc : -microsPerDay < offset ∧ offset < microsPerDay
  inRange : firstSecond * microsPerSecond ≤ micros + offset ∧
    micros + offset < endSecond * microsPerSecond
  deriving DecidableEq, Repr

namespace Moment

def sameInstant (a b : Moment) : Bool :=
  a.micros == b.micros

def reading (m : Moment) : Int :=
  m.micros + m.offset

/-- The moment with this reading and offset, if the reading lies in the calendar and the offset is
less than a day. -/
def ofReading? (reading offset : Int) : Option Moment :=
  if near : -microsPerDay < offset ∧ offset < microsPerDay then
    if h : firstSecond * microsPerSecond ≤ reading ∧ reading < endSecond * microsPerSecond then
      some ⟨reading - offset, offset, near, by omega⟩
    else none
  else none

def ofDate? (date : Calendar.Date) (second micro east : Int) : Option Moment :=
  ofReading? ((Calendar.dayNumber date * secondsPerDay + second) * microsPerSecond + micro)
    (east * microsPerSecond)

/-! ## Seconds in storage -/

/-- Whole seconds since 1970, towards zero, of the floating-point number nearest to the exact number
of seconds. -/
def unixSeconds (m : Moment) : Int :=
  ((Binary64.ofRatio (m.micros < 0) m.micros.natAbs microsPerSecond.toNat).truncate?).getD 0

def maxClockYear : Int := 2 ^ 31 + 1899

def maxClockSecond : Int := 2 ^ 63 - 1

def outOfRange (seconds : Int) : ConversionError :=
  let year := (Calendar.dateOf (seconds / secondsPerDay)).year
  if maxClockSecond < seconds then .secondTooLarge
  else if maxClockYear < year then .yearTooLarge
  else .yearOutOfRange (Int.bmod year (2 ^ 32))

/-- The moment, read in UTC, of a second since 1970. Zero and below stand for no moment. -/
def ofUnix? (seconds : Int) : Except ConversionError (Option Moment) :=
  if seconds ≤ 0 then .ok none
  else if h : 0 < seconds ∧ seconds < endSecond then
    .ok (some ⟨seconds * microsPerSecond, 0, by decide, by
      simp only [firstSecond, endSecond, microsPerSecond] at *; omega⟩)
  else .error (outOfRange seconds)

/-! ## Text -/

/-- Hours and minutes of a number of microseconds, and its seconds if `full` or if anything is left
for them. -/
def clockChars (full : Bool) (micros : Nat) : List Char :=
  let seconds := micros / 1000000
  let minutes := seconds / 60
  let micro := micros % 1000000
  Numeral.padded 2 (minutes / 60) ++ ':' :: Numeral.padded 2 (minutes % 60) ++
    (if full || micros % 60000000 != 0 then
      ':' :: Numeral.padded 2 (seconds % 60) ++
        if micro = 0 then [] else '.' :: Numeral.padded 6 micro
    else [])

def text (m : Moment) : String :=
  let date := Calendar.dateOf (m.reading / microsPerDay)
  String.ofList <|
    Numeral.padded 4 date.year.toNat ++ '-' :: Numeral.padded 2 date.month ++
      '-' :: Numeral.padded 2 date.day ++
      'T' :: clockChars true (m.reading % microsPerDay).toNat ++
      (if m.offset < 0 then '-' else '+') :: clockChars false m.offset.natAbs

end Moment

end PuppetRegistry
