import LogRelay.Options.Value

/-!
# Values of a document

What a document can hold, and how a message shows it. A value is shown in two ways: by itself, where a
text stands as it is, and quoted, as it stands inside another value. A set shows its members in the
order of the document.
-/

namespace LogRelay.Yaml

open Options (ShowFault)

/-- A day. -/
structure Day where
  year : Nat
  month : Nat
  day : Nat
  deriving DecidableEq, Repr

/-- A day with a time of day, and perhaps the minutes by which its clock is ahead of universal time. -/
structure DayTime where
  day : Day
  hour : Nat
  minute : Nat
  second : Nat
  microsecond : Nat
  offset : Option Int
  deriving DecidableEq, Repr

/-- A value of a document. -/
inductive Value where
  | null
  | flag (value : Bool)
  | integer (number : Int)
  | double (number : Double)
  | text (text : Wording)
  | bytes (bytes : List UInt8)
  | day (day : Day)
  | dayTime (moment : DayTime)
  | list (items : List Value)
  | pair (first second : Value)
  | mapping (entries : List (Value × Value))
  | set (items : List Value)
  /-- A collection that holds itself, where it comes up again. -/
  | again (isMapping : Bool)
  deriving Inhabited

/-- A number of at least so many digits. -/
def padded (width number : Nat) : String :=
  let digits := toString number
  "".pushn '0' (width - digits.length) ++ digits

namespace Day

/-- The day as it stands by itself. -/
def plain (day : Day) : String :=
  padded 4 day.year ++ "-" ++ padded 2 day.month ++ "-" ++ padded 2 day.day

/-- The numbers of the day. -/
def numbers (day : Day) : List Nat := [day.year, day.month, day.day]

/-- The day as it stands inside a value. -/
def quoted (day : Day) : String :=
  "datetime.date(" ++ ", ".intercalate (day.numbers.map toString) ++ ")"

end Day

namespace DayTime

/-- How far a clock is ahead, as it stands by itself. -/
def plainOffset (minutes : Int) : String :=
  (if minutes < 0 then "-" else "+") ++ padded 2 (minutes.natAbs / 60) ++ ":" ++
    padded 2 (minutes.natAbs % 60)

/-- How far a clock is ahead, as it stands inside a value: in days and seconds, of which only the days
can be negative. -/
def quotedOffset (minutes : Int) : String :=
  if minutes = 0 then "datetime.timezone.utc"
  else
    let seconds := toString (minutes % 1440 * 60)
    "datetime.timezone(datetime.timedelta(" ++ (if minutes < 0 then "days=-1, " else "") ++
      "seconds=" ++ seconds ++ "))"

/-- The moment as it stands by itself. -/
def plain (moment : DayTime) : String :=
  moment.day.plain ++ " " ++ padded 2 moment.hour ++ ":" ++ padded 2 moment.minute ++ ":" ++
    padded 2 moment.second ++
    (if moment.microsecond = 0 then "" else "." ++ padded 6 moment.microsecond) ++
    moment.offset.elim "" plainOffset

/-- The numbers of the moment, without the seconds if they are none. -/
def numbers (moment : DayTime) : List Nat :=
  moment.day.numbers ++ [moment.hour, moment.minute] ++
    (if moment.microsecond ≠ 0 then [moment.second, moment.microsecond]
    else if moment.second ≠ 0 then [moment.second] else [])

/-- The moment as it stands inside a value. -/
def quoted (moment : DayTime) : String :=
  "datetime.datetime(" ++ ", ".intercalate (moment.numbers.map toString) ++
    moment.offset.elim "" (fun minutes => ", tzinfo=" ++ quotedOffset minutes) ++ ")"

end DayTime

/-- The most values inside each other that are shown. -/
def depthLimit : Nat := 1000

/-- One level further inside. -/
def deeper : (levels : Nat) → Except ShowFault Nat
  | 0 => .error .tooDeep
  | levels + 1 => .ok levels

/-- Parts of a value between two marks. -/
def enclosed (left : String) (parts : List Wording) (right : String) : Wording :=
  Wording.ofText left ++ (", " : Wording).intercalate parts ++ Wording.ofText right

namespace Value

mutual

/-- The value as it stands inside another value, if there are at most so many levels in it. -/
def quoted : Value → (levels : Nat) → Except ShowFault Wording
  | null, _ => Options.Value.null.quoted
  | flag value, _ => (Options.Value.flag value).quoted
  | integer number, _ => (Options.Value.integer number).quoted
  | double number, _ => (Options.Value.double number).quoted
  | text written, _ => (Options.Value.text written).quoted
  | bytes written, _ => (Options.Value.bytes written).quoted
  | day date, _ => .ok date.quoted
  | dayTime moment, _ => .ok moment.quoted
  | list items, levels => do pure (enclosed "[" (← quotedAll items (← deeper levels)) "]")
  | pair first second, levels => do
      let levels ← deeper levels
      pure (enclosed "(" [← quoted first levels, ← quoted second levels] ")")
  | mapping entries, levels => do
      pure (enclosed "\x7b" (← quotedEntries entries (← deeper levels)) "\x7d")
  | set [], _ => .ok "set()"
  | set (first :: items), levels => do
      let levels ← deeper levels
      pure (enclosed "\x7b" ((← quoted first levels) :: (← quotedAll items levels)) "\x7d")
  | again true, _ => .ok "\x7b...\x7d"
  | again false, _ => .ok "[...]"

/-- The values as they stand inside another one. -/
def quotedAll : List Value → (levels : Nat) → Except ShowFault (List Wording)
  | [], _ => .ok []
  | item :: items, levels => do pure ((← quoted item levels) :: (← quotedAll items levels))

/-- The entries of a mapping as they stand in it. -/
def quotedEntries : List (Value × Value) → (levels : Nat) → Except ShowFault (List Wording)
  | [], _ => .ok []
  | (key, value) :: entries, levels => do
      let entry := (← quoted key levels) ++ Wording.ofText ": " ++ (← quoted value levels)
      pure (entry :: (← quotedEntries entries levels))

end

/-- The value by itself. -/
def plain : Value → Except ShowFault Wording
  | text written => .ok written
  | day date => .ok date.plain
  | dayTime moment => .ok moment.plain
  | value => value.quoted depthLimit

/-- Whether a value counts as nothing: null, false, zero, and what is empty. -/
def isVoid : Value → Bool
  | null => true
  | flag value => !value
  | integer number => number == 0
  | double number => number.magnitude == 0
  | text written => written.isEmpty
  | bytes written => written.isEmpty
  | list items => items.isEmpty
  | mapping entries => entries.isEmpty
  | set items => items.isEmpty
  | _ => false

end Value

end LogRelay.Yaml
