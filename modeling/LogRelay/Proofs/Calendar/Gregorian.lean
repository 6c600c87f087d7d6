import LogRelay.Calendar
import Mathlib.Tactic.IntervalCases

/-!
# The Gregorian calendar by its rules

The rules of the calendar, with nothing to make use of them quickly: a leap year is one day longer than
the others, the days before a year are those of the years before it, and the days before a month those of
the months before it. A date and time of day that obeys the rules is a second of universal time.

Each second from the epoch on has the date and time of day that lead back to it, on the right weekday
(`exists_moment_eq`). The order of seconds is that of their dates and times of day, by one number after
the other (`seconds_lt_iff`), and the years up to 9999 are over with one second (`year_le_iff`).
-/

namespace LogRelay

namespace Gregorian

/-- Every fourth year, but of the full centuries every fourth only. -/
def IsLeap (year : Nat) : Prop :=
  year % 4 = 0 ∧ (year % 100 ≠ 0 ∨ year % 400 = 0)

instance (year : Nat) : Decidable (IsLeap year) :=
  inferInstanceAs (Decidable (year % 4 = 0 ∧ (year % 100 ≠ 0 ∨ year % 400 = 0)))

def yearLength (year : Nat) : Nat :=
  if IsLeap year then 366 else 365

def monthLength (year month : Nat) : Nat :=
  match month with
  | 2 => if IsLeap year then 29 else 28
  | 4 | 6 | 9 | 11 => 30
  | _ => 31

/-- The days of the years before a year, from the year zero on. -/
def daysBeforeYear : (year : Nat) → Nat
  | 0 => 0
  | year + 1 => daysBeforeYear year + yearLength year

/-- The days of the first months of a year. -/
def daysOfMonths (year : Nat) : (months : Nat) → Nat
  | 0 => 0
  | months + 1 => daysOfMonths year months + monthLength year (months + 1)

end Gregorian

open Gregorian

/-- A date and a time of day. -/
structure Civil where
  year : Nat
  month : Nat
  day : Nat
  hour : Nat
  minute : Nat
  second : Nat
  deriving DecidableEq, Repr

namespace Civil

/-- Months and days count from one, and each number is below what it counts up to. -/
structure Valid (civil : Civil) : Prop where
  month : 1 ≤ civil.month ∧ civil.month ≤ 12
  day : 1 ≤ civil.day ∧ civil.day ≤ monthLength civil.year civil.month
  hour : civil.hour < 24
  minute : civil.minute < 60
  second : civil.second < 60

/-- The days from the first of January of the year zero. -/
def dayNumber (civil : Civil) : Nat :=
  daysBeforeYear civil.year + daysOfMonths civil.year (civil.month - 1) + (civil.day - 1)

/-- The days since the first of January 1970. -/
def days (civil : Civil) : Int :=
  civil.dayNumber - daysBeforeYear 1970

/-- The seconds since the epoch. -/
def seconds (civil : Civil) : Int :=
  civil.days * 86400 + civil.hour * 3600 + civil.minute * 60 + civil.second

/-- The weekday, counted from Sunday as zero. The first of January 1970 was a Thursday. -/
def weekday (civil : Civil) : Nat :=
  ((civil.days + 4) % 7).toNat

/-- The moment of a date and time of day. -/
def moment (civil : Civil) : Moment :=
  ⟨civil.year, civil.month, civil.day, civil.hour, civil.minute, civil.second, civil.weekday⟩

end Civil

namespace Gregorian

/-! ## Years -/

theorem yearLength_cases (year : Nat) :
    yearLength year = 366 ∧ year % 4 = 0 ∧ (year % 100 ≠ 0 ∨ year % 400 = 0) ∨
      yearLength year = 365 ∧ ¬(year % 4 = 0 ∧ (year % 100 ≠ 0 ∨ year % 400 = 0)) := by
  by_cases leap : IsLeap year
  · exact .inl ⟨if_pos leap, leap⟩
  · exact .inr ⟨if_neg leap, leap⟩

theorem daysBeforeYear_succ (year : Nat) :
    daysBeforeYear (year + 1) + year / 100 = 365 * year + year / 4 + year / 400 + 366 := by
  induction year with
  | zero => rfl
  | succ year ih =>
      rw [daysBeforeYear, show (year + 1) / 4 = _ from Nat.succ_div,
        show (year + 1) / 100 = _ from Nat.succ_div, show (year + 1) / 400 = _ from Nat.succ_div]
      rcases yearLength_cases (year + 1) with ⟨length, leap⟩ | ⟨length, plain⟩
      · rw [length, if_pos (show 4 ∣ year + 1 by omega)]
        split <;> split <;> omega
      · rw [length]
        split <;> split <;> split <;> omega

theorem daysBeforeYear_1970 : daysBeforeYear 1970 = 719528 := by
  have closed := daysBeforeYear_succ 1969
  simp only [Nat.reduceAdd] at closed
  omega

theorem daysBeforeYear_mono {year later : Nat} (before : year ≤ later) :
    daysBeforeYear year ≤ daysBeforeYear later := by
  induction before with
  | refl => exact Nat.le_refl _
  | step _ ih => exact Nat.le_trans ih (Nat.le_add_right ..)

/-! ## Months -/

theorem daysOfMonths_mono (year : Nat) {months more : Nat} (fewer : months ≤ more) :
    daysOfMonths year months ≤ daysOfMonths year more := by
  induction fewer with
  | refl => exact Nat.le_refl _
  | step _ ih => exact Nat.le_trans ih (Nat.le_add_right ..)

theorem monthLength_le (year month : Nat) : monthLength year month ≤ 31 := by
  unfold monthLength
  repeat' split
  all_goals decide

/-- January and February, and the ten months after them, which are the same in each year. -/
theorem daysOfMonths_two (year : Nat) : daysOfMonths year 2 + 306 = yearLength year := by
  simp only [daysOfMonths, monthLength, yearLength]
  split <;> rfl

/-- The months from March on are as long as in a year that begins in March. -/
theorem monthLength_late (year : Nat) {month : Nat} (late : month < 10) :
    monthLength year (month + 3) + Calendar.monthStart month = Calendar.monthStart (month + 1) := by
  interval_cases month <;> rfl

theorem daysOfMonths_late (year : Nat) {month : Nat} (late : month ≤ 10) :
    daysOfMonths year (month + 2) + 306 = yearLength year + Calendar.monthStart month := by
  induction month with
  | zero => exact daysOfMonths_two year
  | succ month ih =>
      have earlier := ih (by omega)
      have length := monthLength_late year (show month < 10 by omega)
      show daysOfMonths year (month + 2) + monthLength year (month + 3) + 306 = _
      omega

theorem daysOfMonths_twelve (year : Nat) : daysOfMonths year 12 = yearLength year := by
  have all := daysOfMonths_late year (Nat.le_refl 10)
  simp only [Calendar.monthStart, Nat.reduceAdd, Nat.reduceMul, Nat.reduceDiv] at all
  omega

/-! ## Years that begin in March -/

/-- A day of a year that begins in March lies in the month that is told by a division. -/
theorem monthOfDay_spec (day : Nat) :
    Calendar.monthStart (Calendar.monthOfDay day) ≤ day ∧
      day < Calendar.monthStart (Calendar.monthOfDay day + 1) := by
  simp only [Calendar.monthStart, Calendar.monthOfDay]
  omega

/-- A day of a year that begins in March, with a second of it. January and February belong to the year
that comes next. -/
def ofMarch (year day second : Nat) : Civil :=
  let month := Calendar.monthOfDay day
  { year := year + if month < 10 then 0 else 1
    month := if month < 10 then month + 3 else month - 9
    day := day - Calendar.monthStart month + 1
    hour := second / 3600
    minute := second / 60 % 60
    second := second % 60 }

/-- January and February of a year end the year that begins in March before it. -/
theorem monthLength_winter (year : Nat) :
    monthLength year 1 + 306 = Calendar.monthStart 11 ∧
      monthLength year 2 + Calendar.monthStart 11 = yearLength year := by
  simp only [monthLength, yearLength]
  split <;> exact ⟨rfl, rfl⟩

/-- A year that begins in March has the leap day of the year that comes next, and is as long as that. -/
theorem ofMarch_spec {year day second : Nat} (inside : day < yearLength (year + 1))
    (daily : second < 86400) :
    (ofMarch year day second).Valid ∧
      (ofMarch year day second).dayNumber + 306 = daysBeforeYear (year + 1) + day := by
  have place := monthOfDay_spec day
  have last : Calendar.monthOfDay day ≤ 11 := by
    have length := yearLength_cases (year + 1)
    rw [Calendar.monthOfDay]
    omega
  suffices date : (1 ≤ (ofMarch year day second).month ∧ (ofMarch year day second).month ≤ 12) ∧
      (ofMarch year day second).day ≤
        monthLength (ofMarch year day second).year (ofMarch year day second).month ∧
      (ofMarch year day second).dayNumber + 306 = daysBeforeYear (year + 1) + day by
    refine ⟨⟨date.1, ⟨Nat.succ_pos _, date.2.1⟩, ?_, ?_, ?_⟩, date.2.2⟩ <;>
      simp only [ofMarch] <;> omega
  simp only [Civil.dayNumber, ofMarch]
  generalize Calendar.monthOfDay day = month at place last ⊢
  rcases Nat.lt_or_ge month 10 with late | early
  · have length := monthLength_late year late
    have months := daysOfMonths_late year (Nat.le_of_lt late)
    simp only [if_pos late, Nat.add_zero, Nat.add_sub_cancel, daysBeforeYear,
      show month + 3 - 1 = month + 2 from rfl]
    omega
  · simp only [if_neg (Nat.not_lt.mpr early), Nat.add_sub_cancel]
    have winter := monthLength_winter (year + 1)
    have january : daysOfMonths (year + 1) 1 = monthLength (year + 1) 1 := Nat.zero_add _
    have none_before : daysOfMonths (year + 1) 0 = 0 := rfl
    have starts : Calendar.monthStart 10 = 306 ∧ Calendar.monthStart 11 = 337 := ⟨rfl, rfl⟩
    rcases (show month = 10 ∨ month = 11 by omega) with rfl | rfl
    · simp only [Nat.reduceSub, Nat.reduceAdd] at place ⊢
      omega
    · simp only [Nat.reduceSub, Nat.reduceAdd] at place ⊢
      omega

/-! ## Days of a cycle -/

/-- The divisions of the calendar take a day apart into centuries, groups of four years, years and days.
A century has 25 groups, and the last day of a group is the leap day, which the last group of a century
has only if it is the last of the cycle. -/
theorem yearDay_parts {day : Nat} (inside : day < Calendar.cycleDays) :
    ∃ century group year rest, Calendar.yearDay day = ⟨century * 100 + group * 4 + year, rest⟩ ∧
      day = century * 36524 + group * 1461 + year * 365 + rest ∧
      century ≤ 3 ∧ group ≤ 24 ∧ year ≤ 3 ∧
      (rest < 365 ∨ rest = 365 ∧ year = 3 ∧ (group = 24 → century = 3)) := by
  simp only [Calendar.cycleDays] at inside
  obtain ⟨century, century_eq⟩ : ∃ century, century = min (day / 36524) 3 := ⟨_, rfl⟩
  obtain ⟨inCentury, day_eq⟩ : ∃ inCentury, day = century * 36524 + inCentury :=
    ⟨day - century * 36524, by omega⟩
  have in_century : century ≤ 3 ∧ (inCentury < 36524 ∨ century = 3 ∧ inCentury < 36525) := by omega
  obtain ⟨group, group_eq⟩ : ∃ group, group = inCentury / 1461 := ⟨_, rfl⟩
  obtain ⟨inGroup, inCentury_eq⟩ : ∃ inGroup, inCentury = group * 1461 + inGroup :=
    ⟨inCentury - group * 1461, by omega⟩
  have in_group : inGroup < 1461 := by omega
  obtain ⟨year, year_eq⟩ : ∃ year, year = min (inGroup / 365) 3 := ⟨_, rfl⟩
  obtain ⟨rest, inGroup_eq⟩ : ∃ rest, inGroup = year * 365 + rest :=
    ⟨inGroup - year * 365, by omega⟩
  refine ⟨century, group, year, rest, ?_, ?_, ?_⟩
  · have century_left : day - century * 36524 = inCentury := by omega
    have group_left : inCentury - group * 1461 = inGroup := by omega
    have year_left : inGroup - year * 365 = rest := by omega
    simp only [Calendar.yearDay, ← century_eq, century_left, ← group_eq, group_left, ← year_eq,
      year_left]
  · simp only [day_eq, inCentury_eq, inGroup_eq, Nat.add_assoc]
  · clear day_eq century_eq inside
    omega

theorem yearDay_spec (cycle : Nat) {day : Nat} (inside : day < Calendar.cycleDays) :
    (Calendar.yearDay day).day <
        yearLength (cycle * 400 + (Calendar.yearDay day).year + 1) ∧
      daysBeforeYear (cycle * 400 + (Calendar.yearDay day).year + 1) + (Calendar.yearDay day).day =
        cycle * Calendar.cycleDays + day + 366 := by
  rcases yearDay_parts inside with
    ⟨century, group, year, rest, parts, day_eq, centuries, groups, years, last⟩
  rw [parts, Calendar.cycleDays]
  simp only
  have closed := daysBeforeYear_succ (cycle * 400 + (century * 100 + group * 4 + year))
  have length := yearLength_cases (cycle * 400 + (century * 100 + group * 4 + year) + 1)
  omega

end Gregorian

namespace Civil

variable {civil other : Civil}

/-! ## Seconds and dates -/

/-- Each second from the epoch on is told by the date and the time of day that lead back to it. -/
theorem exists_moment_eq {seconds : Int} (natural : 0 ≤ seconds) :
    ∃ civil : Civil, civil.Valid ∧ civil.seconds = seconds ∧
      Calendar.moment seconds = civil.moment := by
  obtain ⟨days, days_eq⟩ : ∃ days : Nat, seconds / 86400 + Calendar.epochDays = days :=
    Int.eq_ofNat_of_zero_le (by simp only [Calendar.epochDays]; omega)
  obtain ⟨second, second_eq⟩ : ∃ second : Nat, seconds % 86400 = second :=
    Int.eq_ofNat_of_zero_le (Int.emod_nonneg _ (by decide))
  have inside : days % Calendar.cycleDays < Calendar.cycleDays := Nat.mod_lt _ (by decide)
  have whole : days / Calendar.cycleDays * Calendar.cycleDays + days % Calendar.cycleDays = days := by
    rw [Nat.mul_comm, Nat.div_add_mod]
  have told := yearDay_spec (days / Calendar.cycleDays) inside
  have spec := ofMarch_spec told.1 (show second < 86400 by omega)
  have days_since : (ofMarch (days / Calendar.cycleDays * 400 +
      (Calendar.yearDay (days % Calendar.cycleDays)).year)
      (Calendar.yearDay (days % Calendar.cycleDays)).day second).days = seconds / 86400 := by
    have epoch := daysBeforeYear_1970
    simp only [Calendar.epochDays] at days_eq
    rw [Civil.days]
    omega
  refine ⟨_, spec.1, ?_, ?_⟩
  · rw [Civil.seconds, days_since]
    simp only [ofMarch]
    omega
  · rw [Civil.moment, weekday, days_since]
    simp only [Calendar.moment, ofMarch, days_eq, second_eq, ← Int.natCast_emod, ← Int.natCast_ediv,
      Int.toNat_natCast]
    split <;> rfl

theorem Valid.daily (valid : civil.Valid) :
    civil.hour * 3600 + civil.minute * 60 + civil.second < 86400 := by
  have hour := valid.hour
  have minute := valid.minute
  have second := valid.second
  omega

/-- A day lies in its month. -/
theorem Valid.inMonth (valid : civil.Valid) :
    daysOfMonths civil.year (civil.month - 1) + (civil.day - 1) <
      daysOfMonths civil.year civil.month := by
  have month := valid.month
  have day := valid.day
  obtain ⟨before, month_eq⟩ : ∃ before, civil.month = before + 1 := ⟨civil.month - 1, by omega⟩
  rw [month_eq] at day ⊢
  rw [daysOfMonths, Nat.add_sub_cancel]
  omega

/-- A day lies in its year. -/
theorem Valid.inYear (valid : civil.Valid) :
    daysBeforeYear civil.year ≤ civil.dayNumber ∧
      civil.dayNumber < daysBeforeYear (civil.year + 1) := by
  have inMonth := valid.inMonth
  have inYear := daysOfMonths_mono civil.year valid.month.2
  rw [daysOfMonths_twelve] at inYear
  rw [daysBeforeYear, dayNumber]
  omega

/-- The order of dates, by year, month and day. -/
def DateBefore (civil other : Civil) : Prop :=
  civil.year < other.year ∨ civil.year = other.year ∧
    (civil.month < other.month ∨ civil.month = other.month ∧ civil.day < other.day)

/-- The order of dates with times of day, by one number after the other. -/
def Before (civil other : Civil) : Prop :=
  civil.DateBefore other ∨
    (civil.year = other.year ∧ civil.month = other.month ∧ civil.day = other.day) ∧
      (civil.hour < other.hour ∨ civil.hour = other.hour ∧
        (civil.minute < other.minute ∨ civil.minute = other.minute ∧ civil.second < other.second))

theorem dayNumber_lt (valid : civil.Valid) (other_valid : other.Valid)
    (before : civil.DateBefore other) : civil.dayNumber < other.dayNumber := by
  rcases before with year | ⟨year, month | ⟨month, day⟩⟩
  · have years := daysBeforeYear_mono (show civil.year + 1 ≤ other.year from year)
    have inYear := valid.inYear
    have inOtherYear := other_valid.inYear
    omega
  · have months := daysOfMonths_mono civil.year (show civil.month ≤ other.month - 1 by omega)
    have inMonth := valid.inMonth
    rw [dayNumber, dayNumber, ← year]
    omega
  · have from_one := valid.day
    rw [dayNumber, dayNumber, ← year, ← month]
    omega

theorem seconds_lt (valid : civil.Valid) (other_valid : other.Valid)
    (before : civil.Before other) : civil.seconds < other.seconds := by
  have minutes := valid.minute
  have seconds := valid.second
  simp only [Civil.seconds, days]
  rcases before with date | ⟨⟨year, month, day⟩, clock⟩
  · have earlier := dayNumber_lt valid other_valid date
    have daily := valid.daily
    omega
  · have same : civil.dayNumber = other.dayNumber := by
      rw [dayNumber, dayNumber, year, month, day]
    omega

theorem before_trichotomy (civil other : Civil) :
    civil.Before other ∨ civil = other ∨ other.Before civil := by
  cases civil
  cases other
  simp only [Before, DateBefore, mk.injEq]
  grind

/-- The order of seconds is that of their dates and times of day. -/
theorem seconds_lt_iff (valid : civil.Valid) (other_valid : other.Valid) :
    civil.seconds < other.seconds ↔ civil.Before other := by
  refine ⟨?_, seconds_lt valid other_valid⟩
  intro earlier
  rcases before_trichotomy civil other with before | rfl | after
  · exact before
  · exact absurd earlier (Int.lt_irrefl _)
  · have later := seconds_lt other_valid valid after
    omega

theorem eq_of_seconds_eq (valid : civil.Valid) (other_valid : other.Valid)
    (same : civil.seconds = other.seconds) : civil = other := by
  rcases before_trichotomy civil other with before | same | after
  · have earlier := seconds_lt valid other_valid before
    omega
  · exact same
  · have later := seconds_lt other_valid valid after
    omega

theorem year_ge (valid : civil.Valid) (natural : 0 ≤ civil.seconds) : 1970 ≤ civil.year := by
  by_contra early
  have years := daysBeforeYear_mono (show civil.year + 1 ≤ 1970 by omega)
  have inYear := valid.inYear
  have daily := valid.daily
  rw [Civil.seconds, days] at natural
  omega

/-- The years up to 9999 are over with one second. -/
theorem year_le_iff (valid : civil.Valid) :
    civil.year ≤ 9999 ↔ civil.seconds < 253402300800 := by
  have epoch := daysBeforeYear_1970
  have last : daysBeforeYear 10000 = 3652425 := by
    have closed := daysBeforeYear_succ 9999
    simp only [Nat.reduceAdd] at closed
    omega
  have inYear := valid.inYear
  have daily := valid.daily
  rw [Civil.seconds, days]
  constructor
  · intro early
    have years := daysBeforeYear_mono (show civil.year + 1 ≤ 10000 by omega)
    omega
  · intro early
    by_contra late
    have years := daysBeforeYear_mono (show 10000 ≤ civil.year by omega)
    omega

end Civil

end LogRelay
