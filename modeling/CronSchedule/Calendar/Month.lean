/-!
# Months and weekdays of the Gregorian calendar

The Gregorian calendar carried on in both directions without a change of style.  Years, months and
days are integers, so that a caller may ask about a date that does not exist and is told why.

* `monthLength` — the number of days of a month.
* `dayNumber` — days counted from 1 January of year 1, which is day 1.
* `dateOfNumber` — the date of a day by its number.
* `weekdayOf` — the day of the week, Sunday being 1 and Saturday 7.
* `CalendarError` — the reasons why something is no month, no date or no time.
* `checkMonth`, `checkDate`, `checkTime` — the checks that give these reasons.
* `Date` — a year, a month and a day that are still to be checked.
-/

namespace CronSchedule.Calendar

/-! ## Lengths -/

/-- Whether a year has a 29 February. -/
def isLeap (year : Int) : Bool :=
  year % 4 == 0 && (year % 100 != 0 || year % 400 == 0)

/-- The number of days of a month; meant for months 1 to 12. -/
def monthLength (year month : Int) : Int :=
  if month = 2 then (if isLeap year then 29 else 28)
  else if month = 4 ∨ month = 6 ∨ month = 9 ∨ month = 11 then 30
  else 31

/-- Days of the year before the first of a month; meant for months 1 to 12. -/
def daysBeforeMonth (year month : Int) : Int :=
  let common : Int := match month.toNat with
    | 1 => 0
    | 2 => 31
    | 3 => 59
    | 4 => 90
    | 5 => 120
    | 6 => 151
    | 7 => 181
    | 8 => 212
    | 9 => 243
    | 10 => 273
    | 11 => 304
    | _ => 334
  if 2 < month ∧ isLeap year then common + 1 else common

/-- Days before 1 January of a year, counted from year 1. -/
def daysBeforeYear (year : Int) : Int :=
  let past := year - 1
  past * 365 + past / 4 - past / 100 + past / 400

/-- The number of a date, 1 January of year 1 being day 1. -/
def dayNumber (year month day : Int) : Int :=
  daysBeforeYear year + daysBeforeMonth year month + day

/-! ## Dates by number -/

/-- The year of the day with a given number.  A year, four years, a century and four centuries are
counted off from the largest unit down; the last unit of three or four is the longer one. -/
def yearOfNumber (number : Int) : Int :=
  let past := number - 1
  let inCycle := past % 146097
  let centuries := min 3 (inCycle / 36524)
  let inCentury := inCycle - centuries * 36524
  let inFour := inCentury % 1461
  past / 146097 * 400 + centuries * 100 + inCentury / 1461 * 4 + min 3 (inFour / 365) + 1

/-- The month and the day of the month of the day that `past` days of a year precede. -/
def monthAndDay (year : Int) (past : Int) : Int × Int :=
  let month : Int := ([2, 3, 4, 5, 6, 7, 8, 9, 10, 11, 12].filter fun m =>
    daysBeforeMonth year m ≤ past).length + 1
  (month, past - daysBeforeMonth year month + 1)

/-- The year, the month and the day of the day with a given number. -/
def dateOfNumber (number : Int) : Int × Int × Int :=
  let year := yearOfNumber number
  let (month, day) := monthAndDay year (number - daysBeforeYear year - 1)
  (year, month, day)

/-! ## Weekdays -/

/-- The day of the week of the day with a given number: Monday is 0, Sunday 6.  Day 1 is a
Monday. -/
def weekdayOfNumber (number : Int) : Int :=
  (number - 1) % 7

/-- The day of the week numbered from Sunday as 1, given its number from Monday as 0. -/
def weekdayFromMonday (weekday : Int) : Int :=
  (weekday + 1) % 7 + 1

/-- The day of the week of a date: Sunday is 1, Saturday 7. -/
def weekdayOf (year month day : Int) : Int :=
  weekdayFromMonday (weekdayOfNumber (dayNumber year month day))

/-! ## What is no date and no time -/

/-- Why something is no month, no date or no time of day. -/
inductive CalendarError
  /-- The length of a month was asked for that is none of 1 to 12. -/
  | badMonth (month : Int)
  /-- A date in a year outside 1 to 9999. -/
  | yearOutOfRange (year : Int)
  /-- A date in a month outside 1 to 12. -/
  | monthOutOfRange
  /-- A date past either end of its month. -/
  | dayOutOfRange
  /-- A time of day with an hour outside 0 to 23. -/
  | hourOutOfRange
  /-- A time of day with a minute outside 0 to 59. -/
  | minuteOutOfRange
  /-- A time of day with a second outside 0 to 59. -/
  | secondOutOfRange
  /-- A part of a date that does not even fit a signed word of 32 bits. -/
  | beyondWord
  /-- A time that is reached by counting on from another one, in a year outside 1 to 9999. -/
  | beyondCalendar
  deriving DecidableEq, Repr

def CalendarError.message : CalendarError → String
  | .badMonth month => s!"bad month number {month}; must be 1-12"
  | .yearOutOfRange year => s!"year {year} is out of range"
  | .monthOutOfRange => "month must be in 1..12"
  | .dayOutOfRange => "day is out of range for month"
  | .hourOutOfRange => "hour must be in 0..23"
  | .minuteOutOfRange => "minute must be in 0..59"
  | .secondOutOfRange => "second must be in 0..59"
  | .beyondWord => "number does not fit a calendar field"
  | .beyondCalendar => "date value out of range"

/-- The first year in which a date can be built. -/
def firstYear : Int := 1

/-- The last year in which a date can be built. -/
def lastYear : Int := 9999

/-- Whether a number fits a signed word of 32 bits. -/
def fitsWord (n : Int) : Bool :=
  -2147483648 ≤ n && n ≤ 2147483647

/-- Refuses a month that has no length. -/
def checkMonth (month : Int) : Except CalendarError Unit :=
  if 1 ≤ month ∧ month ≤ 12 then .ok () else .error (.badMonth month)

/-- Refuses what is no date: the year is looked at first, then the month, then the day. -/
def checkDate (year month day : Int) : Except CalendarError Unit :=
  if !(fitsWord year && fitsWord month && fitsWord day) then .error .beyondWord
  else if year < firstYear ∨ lastYear < year then .error (.yearOutOfRange year)
  else if month < 1 ∨ 12 < month then .error .monthOutOfRange
  else if day < 1 ∨ monthLength year month < day then .error .dayOutOfRange
  else .ok ()

/-- Refuses what is no time of day. -/
def checkTime (hour minute second : Int) : Except CalendarError Unit :=
  if hour < 0 ∨ 23 < hour then .error .hourOutOfRange
  else if minute < 0 ∨ 59 < minute then .error .minuteOutOfRange
  else if second < 0 ∨ 59 < second then .error .secondOutOfRange
  else .ok ()

/-! ## Dates -/

/-- A year, a month and a day, which need not be a date of the calendar. -/
structure Date where
  year : Int
  month : Int
  day : Int
  deriving DecidableEq, Repr

/-- The number of days of a month, if there is such a month. -/
def daysInMonth (year month : Int) : Except CalendarError Int := do
  checkMonth month
  return monthLength year month

/-- The last day of the month of a date. -/
def Date.lastDay (date : Date) : Except CalendarError Int :=
  daysInMonth date.year date.month

end CronSchedule.Calendar
