/-!
# The calendar

Seconds since the epoch as a date and a time of day of the Gregorian calendar in universal time. The
calendar is extended without end to both sides and has no leap seconds.

A year is taken to begin in March, so that a leap day is the last day of its year, and a cycle of 400
years to begin with a year divisible by 400. A day is then told by four divisions: into cycles,
centuries, groups of four years and years, of which the last century of a cycle and the last year of
a group are one day longer than the others.
-/

namespace LogRelay

/-- A second of the calendar. Months and days count from one, weekdays from Sunday as zero. -/
structure Moment where
  year : Int
  month : Nat
  day : Nat
  hour : Nat
  minute : Nat
  second : Nat
  weekday : Nat
  deriving DecidableEq, Repr

namespace Calendar

/-- The days from the first of March of the year zero to the epoch. -/
def epochDays : Int := 719468

/-- The days of a cycle of 400 years. -/
def cycleDays : Nat := 146097

/-- A year that begins in March, counted in its cycle, and a day counted in it. -/
structure YearDay where
  year : Nat
  day : Nat
  deriving DecidableEq, Repr

/-- The year and the day in it of a day of a cycle. -/
def yearDay (day : Nat) : YearDay :=
  let century := min (day / 36524) 3
  let inCentury := day - century * 36524
  let group := inCentury / 1461
  let inGroup := inCentury - group * 1461
  let year := min (inGroup / 365) 3
  ⟨century * 100 + group * 4 + year, inGroup - year * 365⟩

/-- The day on which the months of a year that begins in March begin, counted from March as zero. -/
def monthStart (month : Nat) : Nat :=
  (153 * month + 2) / 5

/-- The month of a day of a year that begins in March, counted from March as zero. -/
def monthOfDay (day : Nat) : Nat :=
  (5 * day + 2) / 153

/-- The moment that lies so many seconds after the epoch. -/
def moment (seconds : Int) : Moment :=
  let days := seconds / 86400
  let second := (seconds % 86400).toNat
  let sinceMarch := days + epochDays
  let cycle := sinceMarch / cycleDays
  let yearDay := yearDay (sinceMarch % cycleDays).toNat
  let month := monthOfDay yearDay.day
  { year := cycle * 400 + yearDay.year + (if month < 10 then 0 else 1)
    month := if month < 10 then month + 3 else month - 9
    day := yearDay.day - monthStart month + 1
    hour := second / 3600
    minute := second / 60 % 60
    second := second % 60
    weekday := ((days + 4) % 7).toNat }

end Calendar

end LogRelay
