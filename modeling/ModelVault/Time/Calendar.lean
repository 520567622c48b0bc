import ModelVault.Text.Decimal
import ModelVault.Time.Moment

/-!
Calendar text of points in time, in the Gregorian calendar extended to all years and in UTC.
-/

namespace ModelVault

/-- A day of the Gregorian calendar. -/
structure CalendarDay where
  year : Int
  month : Nat
  day : Nat
  deriving DecidableEq, Repr

/-- The day this many days after 1 January 1970. Years are counted from March, so that the leap day
ends them, and 400 of them make an era of 146097 days. -/
def CalendarDay.ofDayNumber (number : Int) : CalendarDay :=
  let shifted := number + 719468
  let era := shifted / 146097
  let dayOfEra := (shifted % 146097).toNat
  let yearOfEra := (dayOfEra - dayOfEra / 1460 + dayOfEra / 36524 - dayOfEra / 146096) / 365
  let dayOfYear := dayOfEra - (365 * yearOfEra + yearOfEra / 4 - yearOfEra / 100)
  let monthFromMarch := (5 * dayOfYear + 2) / 153
  let day := dayOfYear - (153 * monthFromMarch + 2) / 5 + 1
  let month := if monthFromMarch < 10 then monthFromMarch + 3 else monthFromMarch - 9
  { year := era * 400 + yearOfEra + (if month ≤ 2 then 1 else 0), month, day }

/-- Years 0 to 9999 have four digits; all others carry a sign before at least four. -/
def CalendarDay.yearText (year : Int) : String :=
  if 0 ≤ year ∧ year ≤ 9999 then Text.paddedNumeral 4 year.toNat
  else (if year < 0 then "-" else "+") ++ Text.paddedNumeral 4 year.natAbs

/-- Year, month and day with hyphens between them. -/
def CalendarDay.text (date : CalendarDay) : String :=
  yearText date.year ++ "-" ++ Text.paddedNumeral 2 date.month ++ "-" ++ Text.paddedNumeral 2 date.day

/-- A point and the fewest of 0, 3, 6 or 9 decimals that write the fraction exactly. -/
def fractionText (nanos : Nat) : String :=
  if nanos = 0 then ""
  else if nanos % 1000000 = 0 then "." ++ Text.paddedNumeral 3 (nanos / 1000000)
  else if nanos % 1000 = 0 then "." ++ Text.paddedNumeral 6 (nanos / 1000)
  else "." ++ Text.paddedNumeral 9 nanos

namespace Moment

def day (moment : Moment) : CalendarDay :=
  .ofDayNumber (moment.seconds / 86400)

/-- Hours, minutes and seconds of the day; a leap second is the 60th second of its minute. -/
def clockText (moment : Moment) : String :=
  let second := (moment.seconds % 86400).toNat
  let leap := if nanosPerSecond ≤ moment.nanos then 1 else 0
  Text.paddedNumeral 2 (second / 3600) ++ ":" ++ Text.paddedNumeral 2 (second / 60 % 60) ++ ":" ++
    Text.paddedNumeral 2 (second % 60 + leap) ++ fractionText (moment.nanos - leap * nanosPerSecond)

/-- Day and clock with a blank between them and the zone's name after them. -/
def text (moment : Moment) : String :=
  moment.day.text ++ " " ++ moment.clockText ++ " UTC"

/-- Day and clock in the form of RFC 3339, with the numeric offset of UTC. -/
def rfc3339 (moment : Moment) : String :=
  moment.day.text ++ "T" ++ moment.clockText ++ "+00:00"

end Moment

end ModelVault
