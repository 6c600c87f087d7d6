import LogRelay.Yaml.Moment
import LogRelay.Yaml.Value

/-!
# Entries of mappings

Keys that are the same make one entry of a mapping, which has the place of the first and the value of
the last. Numbers are the same key if they are equal, whatever their kind; truth values count as the
numbers zero and one.
-/

namespace LogRelay.Yaml

/-- The days of the calendar before a day, counted from its first one. -/
def Day.number (day : Day) : Int :=
  let years : Int := day.year - 1
  let months := (List.range (day.month - 1)).foldl
    (fun days month => days + daysInMonth day.year (month + 1)) 0
  years * 365 + years / 4 - years / 100 + years / 400 + months + day.day - 1

/-- The minutes of the calendar before a moment by universal time, if the clock is ahead of it by so
many. -/
def DayTime.minuteNumber (moment : DayTime) (ahead : Int) : Int :=
  moment.day.number * 1440 + moment.hour * 60 + moment.minute - ahead

/-- Whether two moments are the same. A moment whose distance from universal time is known is never the
same as one for which it is not. -/
def DayTime.same (left right : DayTime) : Bool :=
  match left.offset, right.offset with
  | some first, some second =>
      left.minuteNumber first == right.minuteNumber second && left.second == right.second &&
        left.microsecond == right.microsecond
  | none, none => left == right
  | _, _ => false

namespace Value

/-- A key as a number. -/
inductive KeyNumber where
  | whole (number : Int)
  | double (number : Double)

/-- The number that a value is as a key. -/
def keyNumber? : Value → Option KeyNumber
  | flag value => some (.whole (if value then 1 else 0))
  | integer number => some (.whole number)
  | double number => some (.double number)
  | _ => none

/-- Whether two keys are the same number. What is no number is the same as itself here. -/
def KeyNumber.same : KeyNumber → KeyNumber → Bool
  | whole left, whole right => left == right
  | whole left, double right => sameWhole right left
  | double left, whole right => sameWhole left right
  | double left, double right =>
      if left.isNaN || right.isNaN then left.isNaN && right.isNaN
      else left.scaled == right.scaled
where
  /-- Whether a double is equal to a whole number. -/
  sameWhole (left : Double) (right : Int) : Bool :=
    !left.isNaN && !left.isInfinite && left.scaled == right * Double.unitsInOne

/-- Whether two values are the same key. -/
def sameKey (left right : Value) : Bool :=
  match left.keyNumber?, right.keyNumber? with
  | some first, some second => first.same second
  | none, none =>
      match left, right with
      | null, null => true
      | text first, text second => first == second
      | bytes first, bytes second => first == second
      | day first, day second => first == second
      | dayTime first, dayTime second => first.same second
      | _, _ => false
  | _, _ => false

/-- Puts an entry in the place of the one with the same key, or behind all others. -/
def putEntry (key value : Value) : List (Value × Value) → List (Value × Value)
  | [] => [(key, value)]
  | (first, old) :: entries =>
      if sameKey first key then (first, value) :: entries
      else (first, old) :: putEntry key value entries

/-- The entries that are left when keys that are the same make one entry. -/
def uniteEntries (entries : List (Value × Value)) : List (Value × Value) :=
  entries.foldl (fun united (key, value) => putEntry key value united) []

end Value

end LogRelay.Yaml
