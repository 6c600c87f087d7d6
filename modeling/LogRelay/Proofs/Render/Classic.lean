import LogRelay.Proofs.Render.Cutting
import LogRelay.Proofs.Render.Internet

/-!
# Times in the classic text

The classic text has the weekday and the month by name, the day filled up with a blank, the time of day
and the year, which is as long as it has to be. All that stands before the year has a fixed width, so that
the columns that begin a line of the system log hold the date and the time of day for each year, however
long. The text is read back as the date and time of day that lead to the second of the event, on the right
weekday, and these are the ones that the text of the internet standard has (`classic_exact`).
-/

namespace LogRelay

namespace Stamp

open Decimal

/-! ## Reading -/

/-- The place of the first name in a list that a text begins with, and the text behind. -/
def name? (names : List String) (text : List Char) : Option (Nat × List Char) :=
  names.zipIdx.findSome? fun (name, place) => (skip? name text).map (place, ·)

/-- A number of two places, of which the first is blank for a single digit, and the text behind. -/
def blanked? : (text : List Char) → Option (Nat × List Char)
  | ' ' :: text => digits? 1 text
  | text => (digits? 2 text).filter (10 ≤ ·.1)

/-- A weekday, counted from Sunday as zero, and a date and a time of day in the classic form, in which the
year comes last. -/
def readClassic? (text : String) : Option (Nat × Civil) := do
  let (weekday, text) ← name? ["Sun", "Mon", "Tue", "Wed", "Thu", "Fri", "Sat"] text.toList
  let text ← skip? " " text
  let (month, text) ← name? ["Jan", "Feb", "Mar", "Apr", "May", "Jun", "Jul", "Aug", "Sep", "Oct",
    "Nov", "Dec"] text
  let text ← skip? " " text
  let (day, text) ← blanked? text
  let text ← skip? " " text
  let (hour, minute, second, text) ← clock? text
  let text ← skip? " " text
  let (year, text) ← number? text
  if text.isEmpty then some (weekday, ⟨year, month + 1, day, hour, minute, second⟩) else none

/-- What the columns of a date always are: sixteen characters of ASCII of which the last is blank. -/
structure IsDateColumns (date : String) : Prop where
  length : date.length = 16
  ascii : ∀ char ∈ date.toList, char.toNat < 128
  ends : date.toList.getLast? = some ' '

/-! ## The characters of the text -/

/-- The characters of a day of the month. -/
def dayChars (day : Nat) : List Char :=
  if day < 10 then ' ' :: fixed 1 day else fixed 2 day

/-- The characters of a date without its year, and of a time of day. -/
def dateChars (civil : Civil) : List Char :=
  (months.getD (civil.month - 1) "").toList ++ (" ".toList ++ (dayChars civil.day ++ (" ".toList ++
    (clockChars civil ++ " ".toList))))

/-- The characters of a date and a time of day. -/
def classicChars (civil : Civil) : List Char :=
  (weekdays.getD civil.weekday "").toList ++ (" ".toList ++
    (dateChars civil ++ civil.year.repr.toList))

variable {civil : Civil} {event : Event}

theorem toList_blankPadded {day : Nat} (small : day < 100) :
    (blankPadded 2 day).toList = dayChars day := by
  rw [dayChars]
  split
  case isTrue single => interval_cases day <;> rfl
  case isFalse double =>
    have digits : day.repr.toList = fixed 2 day := by
      rw [Nat.toList_repr, toDigits_eq_fixed] <;> simp only [bound] <;> omega
    have width : day.repr.length = 2 := by
      rw [← String.length_toList, digits, length_fixed]
    show ("".pushn ' ' (2 - day.repr.length) ++ day.repr).toList = _
    rw [width, String.toList_append, digits]
    rfl

theorem blanked?_dayChars {day : Nat} (small : day < 100) (text : List Char) :
    blanked? (dayChars day ++ text) = some (day, text) := by
  rw [dayChars]
  split
  case isTrue single =>
    have width : day < bound 1 := single
    rw [List.cons_append, blanked?, digits?_fixed width]
  case isFalse double =>
    have width : day < bound 2 := small
    rw [blanked?, digits?_fixed width]
    · simp only [Option.filter_some]
      rw [if_pos]
      simpa using double
    · intro rest begins
      have first : fixed 2 day = [Nat.digitChar (day / 10 % 10), Nat.digitChar (day % 10)] := rfl
      have blank : ' ' ∈ fixed 2 day := by
        rw [first] at begins ⊢
        exact List.mem_cons.mpr (.inl (List.cons.inj begins).1.symm)
      have digit := isDigit_of_mem_fixed blank
      cases digit

theorem name?_weekday {weekday : Nat} (small : weekday < 7) (text : List Char) :
    name? ["Sun", "Mon", "Tue", "Wed", "Thu", "Fri", "Sat"]
      ((weekdays.getD weekday "").toList ++ text) = some (weekday, text) := by
  interval_cases weekday <;> rfl

theorem name?_month {month : Nat} (small : month < 12) (text : List Char) :
    name? ["Jan", "Feb", "Mar", "Apr", "May", "Jun", "Jul", "Aug", "Sep", "Oct", "Nov", "Dec"]
      ((months.getD month "").toList ++ text) = some (month, text) := by
  interval_cases month <;> rfl

theorem weekday_lt (civil : Civil) : civil.weekday < 7 := by
  rw [Civil.weekday]
  omega

theorem day_lt (valid : civil.Valid) : civil.day < 100 := by
  have day := valid.day
  have length := Gregorian.monthLength_le civil.year civil.month
  omega

/-- The text is read as it was written. -/
theorem readClassic?_classicChars (valid : civil.Valid) :
    readClassic? (String.ofList (classicChars civil)) = some (civil.weekday, civil) := by
  have month := valid.month
  have month_again : civil.month - 1 + 1 = civil.month := by omega
  have year : number? civil.year.repr.toList = some (civil.year, []) := by
    have reads : number? (civil.year.repr.toList ++ []) = some (civil.year, []) :=
      number?_repr civil.year (by simp)
    rwa [List.append_nil] at reads
  simp only [readClassic?, classicChars, dateChars, String.toList_ofList, List.append_assoc,
    Option.bind_eq_bind, Option.bind_some, name?_weekday (weekday_lt civil), skip?_append,
    name?_month (show civil.month - 1 < 12 by omega), blanked?_dayChars (day_lt valid),
    clock?_clockChars valid, year, month_again]
  rfl

theorem ascii_fixed {width number : Nat} {char : Char} (char_mem : char ∈ fixed width number) :
    char.toNat < 128 := by
  have digit := isDigit_of_mem_fixed char_mem
  rw [Char.isDigit_iff_toNat] at digit
  exact Nat.lt_of_le_of_lt digit.2 (by decide)

theorem ascii_of_all {text : List Char} (all : (text.all (·.toNat < 128)) = true) :
    ∀ char ∈ text, char.toNat < 128 := by
  simpa using all

theorem months_spec {month : Nat} (small : month < 12) : (months.getD month "").toList.length = 3 ∧
    ∀ char ∈ (months.getD month "").toList, char.toNat < 128 := by
  interval_cases month <;> exact ⟨rfl, ascii_of_all rfl⟩

theorem dayChars_spec (day : Nat) :
    (dayChars day).length = 2 ∧ ∀ char ∈ dayChars day, char.toNat < 128 := by
  rw [dayChars]
  split
  · refine ⟨rfl, ?_⟩
    intro char char_mem
    rcases List.mem_cons.mp char_mem with rfl | char_mem
    · decide
    · exact ascii_fixed char_mem
  · exact ⟨rfl, fun char => ascii_fixed⟩

/-- The columns before the year have their width whatever the year is. -/
theorem isDateColumns (valid : civil.Valid) : IsDateColumns (String.ofList (dateChars civil)) := by
  have month := valid.month
  have name := months_spec (show civil.month - 1 < 12 by omega)
  have day := dayChars_spec civil.day
  refine ⟨?_, ?_, ?_⟩
  · rw [String.length_ofList]
    simp only [dateChars, clockChars, List.length_append, name.1, day.1, length_fixed,
      String.reduceToList, List.length_cons, List.length_nil]
  · rw [String.toList_ofList]
    simp only [dateChars, clockChars, List.forall_mem_append]
    have blank : ∀ char ∈ " ".toList, char.toNat < 128 := ascii_of_all rfl
    have colon : ∀ char ∈ ":".toList, char.toNat < 128 := ascii_of_all rfl
    exact ⟨name.2, blank, day.2, blank, ⟨⟨⟨⟨fun char => ascii_fixed, colon⟩,
      fun char => ascii_fixed⟩, colon⟩, fun char => ascii_fixed⟩, blank⟩
  · rw [String.toList_ofList, dateChars]
    simp only [← List.append_assoc]
    exact List.getLast?_concat ..

/-- The classic text of an event is written from the date and time of day that lead to its second. -/
theorem classic_eq (valid : civil.Valid) {seconds : Int}
    (told : Calendar.moment seconds = civil.moment)
    (fits : -0x80000000 ≤ (Calendar.moment seconds).year - 1900 ∧
      (Calendar.moment seconds).year - 1900 < 0x80000000) :
    classic seconds = .ok (String.ofList (classicChars civil)) := by
  rw [classic, if_pos fits, told]
  refine congrArg Except.ok ?_
  have year : (toString civil.moment.year).toList = civil.year.repr.toList := rfl
  rw [← String.toList_inj, String.toList_ofList, classicChars, dateChars]
  simp only [monthAndClock, String.toList_append, List.append_assoc, toList_clock valid, year]
  simp only [Civil.moment]
  rw [toList_blankPadded (day_lt valid)]

theorem weekdays_spec {weekday : Nat} (small : weekday < 7) :
    (weekdays.getD weekday "").toList.length = 3 := by
  interval_cases weekday <;> rfl

/-- The columns from the fourth on, sixteen of them, are those of the date and the time of day. -/
theorem columns_classicChars (valid : civil.Valid) :
    ((classicChars civil).drop 4).take 16 = dateChars civil := by
  have weekday : ((weekdays.getD civil.weekday "").toList ++ " ".toList).length = 4 := by
    rw [List.length_append, weekdays_spec (weekday_lt civil)]
    rfl
  have date : (dateChars civil).length = 16 := by
    rw [← String.length_ofList]
    exact (isDateColumns valid).length
  rw [classicChars, ← List.append_assoc, List.drop_left' weekday, List.take_left' date]

end Stamp

namespace Formatter

open Utf8

variable {event : Event} {date : String}

/-- What begins a line of the system log. -/
def lineHeader (event : Event) (date : String) : String :=
  "<" ++ toString event.priority ++ ">" ++ date

/-- A line of the system log begins with the priority and the columns of the date, unless the priority
alone nearly fills the buffer, and is the longest that fits of these with what else there is to tell. -/
theorem syslog_begins (header : Stamp.classicHeader event.seconds = .ok date)
    (columns : Stamp.IsDateColumns date) (timestamp : Bool) (hostname prefixText : Option String) :
    ∃ body rendered, (syslog timestamp hostname prefixText).render event = .ok rendered ∧
      IsLongest 511 (lineHeader event date ++ body) rendered ∧
      ((toString event.priority).utf8ByteSize ≤ 493 →
        (lineHeader event date).toList <+: rendered.toList) := by
  obtain ⟨body, full⟩ : ∃ body,
      fullSyslog timestamp hostname prefixText event = .ok (lineHeader event date ++ body) := by
    simp only [fullSyslog, header, lineHeader, String.append_assoc]
    exact ⟨_, rfl⟩
  have longest := isLongest_truncate (lineHeader event date ++ body) 511
  refine ⟨body, _, by rw [render, full]; rfl, longest, ?_⟩
  intro short
  apply longest.greatest
  · rw [String.toList_append]
    exact List.prefix_append ..
  · have width := utf8ByteSize_of_ascii columns.ascii
    rw [columns.length] at width
    have signs : "<".utf8ByteSize = 1 ∧ ">".utf8ByteSize = 1 := ⟨rfl, rfl⟩
    simp only [lineHeader, String.utf8ByteSize_append, width, signs]
    omega

end Formatter

namespace Stamp

open Utf8 Formatter

variable {event : Event}

/-- The classic text of an event with a time of 64 bits. It is read as the date and time of day that obey
the rules of the calendar and lead to the second of the event, on their weekday. The columns from the
fourth on are those that begin a line of the system log behind the priority. And up to the year 9999 the
text of the internet standard has the same date and time of day. -/
theorem classic_exact (event : Event) (natural : 0 ≤ event.timestampMs)
    (bounded : event.timestampMs < 0x10000000000000000) :
    ∃ text civil date, classic event.seconds = .ok text ∧
      readClassic? text = some (civil.weekday, civil) ∧ civil.Valid ∧
      civil.seconds = event.seconds ∧
      date.toList = (text.toList.drop 4).take 16 ∧ IsDateColumns date ∧
      (∀ timestamp hostname prefixText, ∃ body rendered,
        (syslog timestamp hostname prefixText).render event = .ok rendered ∧
        IsLongest 511 (lineHeader event date ++ body) rendered ∧
        ((toString event.priority).utf8ByteSize ≤ 493 →
          (lineHeader event date).toList <+: rendered.toList)) ∧
      (civil.year ≤ 9999 → ∃ internetText, internet event = .ok internetText ∧
        readInternet? internetText = some (civil, event.millis)) := by
  rcases Civil.exists_moment_eq (seconds_natural natural) with ⟨civil, valid, leads, told⟩
  have from_epoch : 0 ≤ civil.seconds := by
    rw [leads]
    exact seconds_natural natural
  have made := classic_eq valid told (year_fits natural bounded)
  have columns := columns_classicChars valid
  have header : classicHeader event.seconds = .ok (String.ofList (dateChars civil)) := by
    rw [classicHeader, made]
    simp only [Except.map, String.toList_ofList, columns]
  refine ⟨_, civil, _, made, readClassic?_classicChars valid, valid, leads, ?_,
    isDateColumns valid, syslog_begins header (isDateColumns valid), ?_⟩
  · rw [String.toList_ofList, String.toList_ofList, columns]
  · intro early
    refine ⟨_, ?_, readInternet?_internetChars valid early (millis_lt event)⟩
    rw [internet_eq valid from_epoch told, if_pos early]

/-- An event with the last time that a record can hold. -/
def lastTime : Event := ⟨"link up", 1, 134, 1, 18446744073709551615⟩

theorem classic_exact_lastTime :
    (0 ≤ lastTime.timestampMs ∧ lastTime.timestampMs < 0x10000000000000000) ∧
      classic lastTime.seconds = .ok "Wed Apr  3 14:25:51 584556019" ∧
      Civil.seconds ⟨584556019, 4, 3, 14, 25, 51⟩ = 18446744073709551 ∧
      ∃ body rendered, (Formatter.syslog false none none).render lastTime = .ok rendered ∧
        IsLongest 511 ("<134>Apr  3 14:25:51 " ++ body) rendered := by
  have made : classic lastTime.seconds = .ok "Wed Apr  3 14:25:51 584556019" := rfl
  have reads : readClassic? "Wed Apr  3 14:25:51 584556019" =
      some (3, ⟨584556019, 4, 3, 14, 25, 51⟩) := rfl
  rcases classic_exact lastTime (by decide) (by decide) with
    ⟨text, civil, date, also_made, also_reads, -, leads, columns, -, header, -⟩
  rw [made] at also_made
  cases also_made
  rw [reads] at also_reads
  have civil_eq := (Prod.mk.inj (Option.some.inj also_reads)).2
  have same : date = "Apr  3 14:25:51 " := by
    rw [← String.toList_inj, columns]
    rfl
  rcases header false none none with ⟨body, rendered, rendered_eq, longest, -⟩
  rw [same] at longest
  rw [← civil_eq] at leads
  exact ⟨by decide, made, leads, body, rendered, rendered_eq, longest⟩

end Stamp

end LogRelay
