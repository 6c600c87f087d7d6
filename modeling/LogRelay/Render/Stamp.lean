import LogRelay.Calendar
import LogRelay.Record.Event
import LogRelay.Render.Field

/-!
# Time stamps

The three texts of a time: the classic one with weekday and month in words, the seconds in brackets,
and the one of the internet standard. The year is never padded. The classic text has years of 32 bits
counted from 1900, the internet text the years 1 to 9999, and other times have no such text.
-/

namespace LogRelay

namespace Stamp

/-- A number of at least so many digits, filled up with zeros. -/
def zeroPadded (width number : Nat) : String :=
  let digits := toString number
  "".pushn '0' (width - digits.length) ++ digits

/-- A number of at least so many places, filled up with blanks. -/
def blankPadded (width number : Nat) : String :=
  let digits := toString number
  "".pushn ' ' (width - digits.length) ++ digits

/-- The names of the weekdays, from Sunday on. -/
def weekdays : List String :=
  ["Sun", "Mon", "Tue", "Wed", "Thu", "Fri", "Sat"]

/-- The names of the months. -/
def months : List String :=
  ["Jan", "Feb", "Mar", "Apr", "May", "Jun", "Jul", "Aug", "Sep", "Oct", "Nov", "Dec"]

/-- The time of day. -/
def clock (moment : Moment) : String :=
  zeroPadded 2 moment.hour ++ ":" ++ zeroPadded 2 moment.minute ++ ":" ++ zeroPadded 2 moment.second

/-- The month in words, the day and the time of day. -/
def monthAndClock (moment : Moment) : String :=
  months.getD (moment.month - 1) "" ++ " " ++ blankPadded 2 moment.day ++ " " ++ clock moment

/-- The classic text of a time, which ends in the year. It is a text of local time, and the local time is
taken to be universal time. -/
def classic (seconds : Int) : Except RenderFault String :=
  let moment := Calendar.moment seconds
  if -0x80000000 ≤ moment.year - 1900 ∧ moment.year - 1900 < 0x80000000 then
    .ok (weekdays.getD moment.weekday "" ++ " " ++ monthAndClock moment ++ " " ++
      toString moment.year)
  else .error (.outOfRange seconds)

/-- The part of the classic text that begins a line of the system log: month, day and time of day,
with the blank after them. -/
def classicHeader (seconds : Int) : Except RenderFault String :=
  (classic seconds).map fun text => String.ofList ((text.toList.drop 4).take 16)

/-- The seconds with three places in brackets, and a blank. -/
def bracketed (event : Event) : String :=
  "[" ++ toString event.seconds ++ "." ++ zeroPadded 3 event.millis ++ "] "

/-- The text of the internet standard, with three places of seconds. -/
def internet (event : Event) : Except RenderFault String :=
  let moment := Calendar.moment event.seconds
  if 1 ≤ moment.year ∧ moment.year ≤ 9999 then
    .ok (toString moment.year ++ "-" ++ zeroPadded 2 moment.month ++ "-" ++
      zeroPadded 2 moment.day ++ "T" ++ clock moment ++ "." ++ zeroPadded 3 event.millis ++ "Z")
  else .error (.outOfRange event.seconds)

end Stamp

end LogRelay
