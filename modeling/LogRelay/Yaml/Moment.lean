import LogRelay.Yaml.Fault
import LogRelay.Yaml.Value

/-!
# Days and moments in documents

A day is a year of four digits, a month and a day of the month. A moment has a time of day behind it,
perhaps with a fraction of a second, and perhaps with the distance of its clock from universal time.
-/

namespace LogRelay.Yaml

/-- What a text of the form of a day says, before it is known whether there is such a day. -/
structure WrittenMoment where
  moment : DayTime
  /-- There is a time of day. -/
  timed : Bool
  /-- Month and day have two digits each. -/
  full : Bool

/-- A number of at least one digit and at most so many, and what follows it. -/
def takeNumber? (least most : Nat) (chars : List Char) : Option (Nat × Nat × List Char) :=
  let digits := (chars.take most).takeWhile Char.isDigit
  if digits.length < least then none
  else some (digits.foldl (fun number digit => 10 * number + (digit.toNat - 48)) 0, digits.length,
    chars.drop digits.length)

/-- What follows a character. -/
def dropMark? (mark : Char) : List Char → Option (List Char)
  | char :: chars => if char = mark then some chars else none
  | [] => none

/-- The millionths that the digits behind a point stand for. -/
def microseconds (digits : List Char) : Nat :=
  let known := digits.take 6
  (known ++ List.replicate (6 - known.length) '0').foldl
    (fun number digit => 10 * number + (digit.toNat - 48)) 0

/-- The distance of a clock from universal time in minutes, if one is given. -/
def readOffset? (chars : List Char) : Option (Option Int) :=
  if chars.isEmpty then some none
  else match chars.dropWhile fun char => char == ' ' || char == '\t' with
    | ['Z'] => some (some 0)
    | sign :: chars => do
        if sign ≠ '-' ∧ sign ≠ '+' then none
        let (hours, _, chars) ← takeNumber? 1 2 chars
        let minutes ← match chars with
          | [] => some 0
          | ':' :: chars => do
              let (minutes, _, chars) ← takeNumber? 2 2 chars
              if chars.isEmpty then some minutes else none
          | _ => none
        let ahead : Int := hours * 60 + minutes
        some (some (if sign = '-' then -ahead else ahead))
    | [] => none

/-- The time of day behind a day, and what follows it. -/
def readClock? (chars : List Char) : Option (Nat × Nat × Nat × List Char) := do
  let chars ← match chars with
    | 'T' :: chars => some chars
    | 't' :: chars => some chars
    | ' ' :: chars => some (chars.dropWhile fun char => char == ' ' || char == '\t')
    | '\t' :: chars => some (chars.dropWhile fun char => char == ' ' || char == '\t')
    | _ => none
  let (hour, _, chars) ← takeNumber? 1 2 chars
  let (minute, _, chars) ← takeNumber? 2 2 (← dropMark? ':' chars)
  let (second, _, chars) ← takeNumber? 2 2 (← dropMark? ':' chars)
  some (hour, minute, second, chars)

/-- What a text of the form of a day or a moment says. -/
def readMoment? (chars : List Char) : Option WrittenMoment := do
  let (year, _, chars) ← takeNumber? 4 4 chars
  let (month, monthDigits, chars) ← takeNumber? 1 2 (← dropMark? '-' chars)
  let (day, dayDigits, chars) ← takeNumber? 1 2 (← dropMark? '-' chars)
  let full := monthDigits == 2 && dayDigits == 2
  if chars.isEmpty then
    some ⟨⟨⟨year, month, day⟩, 0, 0, 0, 0, none⟩, false, full⟩
  else
    let (hour, minute, second, chars) ← readClock? chars
    let (fraction, chars) := match chars with
      | '.' :: chars => (chars.takeWhile Char.isDigit, chars.dropWhile Char.isDigit)
      | _ => ([], chars)
    let offset ← readOffset? chars
    some ⟨⟨⟨year, month, day⟩, hour, minute, second, microseconds fraction, offset⟩, true, full⟩

/-- Whether a plain scalar is a day or a moment. A day by itself has all its digits. -/
def isMoment (chars : List Char) : Bool :=
  match readMoment? chars with
  | some written => written.timed || written.full
  | none => false

/-- How many days a month has. -/
def daysInMonth (year month : Nat) : Nat :=
  if month = 2 then
    if year % 4 = 0 ∧ (year % 100 ≠ 0 ∨ year % 400 = 0) then 29 else 28
  else if month = 4 ∨ month = 6 ∨ month = 9 ∨ month = 11 then 30
  else 31

/-- Whether there is such a day. -/
def Day.isValid (day : Day) : Bool :=
  1 ≤ day.year && day.year ≤ 9999 && 1 ≤ day.month && day.month ≤ 12 && 1 ≤ day.day &&
    day.day ≤ daysInMonth day.year day.month

/-- Whether there is such a moment. -/
def DayTime.isValid (moment : DayTime) : Bool :=
  moment.day.isValid && moment.hour < 24 && moment.minute < 60 && moment.second < 60 &&
    moment.offset.all fun minutes => minutes.natAbs < 1440

/-- The day or the moment that a text stands for. -/
def readMoment (text : String) : Except Fault Value :=
  match readMoment? text.toList with
  | none => .error .notDay
  | some written =>
      if written.timed then
        if written.moment.isValid then .ok (.dayTime written.moment) else .error .noSuchDay
      else if written.moment.day.isValid then .ok (.day written.moment.day)
      else .error .noSuchDay

end LogRelay.Yaml
