import LogRelay.Proofs.Calendar.Gregorian
import LogRelay.Proofs.Render.Stamp
import LogRelay.Proofs.Text.Decimal

/-!
# Times in the text of the internet standard

The text has four digits for the year and two for each of month, day, hour, minute and second, and three
for the milliseconds. So it can be read back, and it is read as the date and time of day that lead to the
time of the event by the rules of the calendar. An event has such a text unless its time lies beyond the
year 9999, and the texts of two events are in the order of their times (`internet_exact`).
-/

namespace LogRelay

namespace Stamp

open Decimal

/-! ## Reading -/

/-- A time of day, with colons between hour, minute and second, and the text behind. -/
def clock? (text : List Char) : Option (Nat × Nat × Nat × List Char) := do
  let (hour, text) ← digits? 2 text
  let text ← skip? ":" text
  let (minute, text) ← digits? 2 text
  let text ← skip? ":" text
  let (second, text) ← digits? 2 text
  some (hour, minute, second, text)

/-- A date and a time of day with milliseconds in the form YYYY-MM-DDThh:mm:ss.mmmZ. -/
def readInternet? (text : String) : Option (Civil × Nat) := do
  let (year, text) ← digits? 4 text.toList
  let text ← skip? "-" text
  let (month, text) ← digits? 2 text
  let text ← skip? "-" text
  let (day, text) ← digits? 2 text
  let text ← skip? "T" text
  let (hour, minute, second, text) ← clock? text
  let text ← skip? "." text
  let (milli, text) ← digits? 3 text
  let text ← skip? "Z" text
  if text.isEmpty then some (⟨year, month, day, hour, minute, second⟩, milli) else none

/-! ## The characters of the text -/

/-- The characters of a time of day. -/
def clockChars (civil : Civil) : List Char :=
  fixed 2 civil.hour ++ ":".toList ++ fixed 2 civil.minute ++ ":".toList ++ fixed 2 civil.second

/-- The characters of a date and a time of day with milliseconds. -/
def internetChars (civil : Civil) (milli : Nat) : List Char :=
  fixed 4 civil.year ++ ("-".toList ++ (fixed 2 civil.month ++ ("-".toList ++ (fixed 2 civil.day ++
    ("T".toList ++ (clockChars civil ++ (".".toList ++ (fixed 3 milli ++ "Z".toList))))))))

variable {civil other : Civil} {event : Event}

theorem seconds_natural (natural : 0 ≤ event.timestampMs) : 0 ≤ event.seconds := by
  rw [Event.seconds]
  omega

theorem time_eq (event : Event) : event.timestampMs = event.seconds * 1000 + event.millis := by
  rw [Event.seconds, Event.millis]
  omega

theorem millis_lt (event : Event) : event.millis < 1000 := by
  rw [Event.millis]
  omega

theorem widths (valid : civil.Valid) :
    civil.month < bound 2 ∧ civil.day < bound 2 ∧ civil.hour < bound 2 ∧ civil.minute < bound 2 ∧
      civil.second < bound 2 := by
  have month := valid.month
  have day := valid.day
  have days := Gregorian.monthLength_le civil.year civil.month
  have hour := valid.hour
  have minute := valid.minute
  have second := valid.second
  simp only [bound]
  omega

theorem toList_clock (valid : civil.Valid) : (clock civil.moment).toList = clockChars civil := by
  rcases widths valid with ⟨-, -, hour, minute, second⟩
  simp only [clock, clockChars, Civil.moment, String.toList_append, List.append_assoc,
    toList_zeroPadded (by decide) hour, toList_zeroPadded (by decide) minute,
    toList_zeroPadded (by decide) second]

theorem clock?_clockChars (valid : civil.Valid) (text : List Char) :
    clock? (clockChars civil ++ text) = some (civil.hour, civil.minute, civil.second, text) := by
  rcases widths valid with ⟨-, -, hour, minute, second⟩
  simp only [clock?, clockChars, List.append_assoc, Option.bind_eq_bind, Option.bind_some,
    digits?_fixed hour, digits?_fixed minute, digits?_fixed second, skip?_append]

/-- The text is read as it was written. -/
theorem readInternet?_internetChars (valid : civil.Valid) (year : civil.year ≤ 9999) {milli : Nat}
    (small : milli < 1000) :
    readInternet? (String.ofList (internetChars civil milli)) = some (civil, milli) := by
  rcases widths valid with ⟨month, day, -⟩
  have year_width : civil.year < bound 4 := Nat.lt_succ_of_le year
  have milli_width : milli < bound 3 := small
  have ended : skip? "Z" "Z".toList = some [] := rfl
  simp only [readInternet?, internetChars, String.toList_ofList, Option.bind_eq_bind,
    Option.bind_some, digits?_fixed year_width, digits?_fixed month, digits?_fixed day,
    digits?_fixed milli_width, clock?_clockChars valid, skip?_append, ended]
  rfl

theorem length_internetChars (civil : Civil) (milli : Nat) :
    (internetChars civil milli).length = 24 := by
  simp [internetChars, clockChars]

/-- The text of an event is written from the date and time of day that lead to its seconds. -/
theorem internet_eq (valid : civil.Valid) (natural : 0 ≤ civil.seconds)
    (told : Calendar.moment event.seconds = civil.moment) :
    internet event = if civil.year ≤ 9999 then .ok (String.ofList (internetChars civil event.millis))
      else .error (.outOfRange event.seconds) := by
  have from_epoch := Civil.year_ge valid natural
  rw [internet]
  simp only [told]
  by_cases early : civil.year ≤ 9999
  · have in_range : 1 ≤ civil.moment.year ∧ civil.moment.year ≤ 9999 := by
      simp only [Civil.moment]
      omega
    have milli_width : event.millis < bound 3 := millis_lt event
    have year : (toString civil.moment.year).toList = fixed 4 civil.year := by
      show (civil.year.repr).toList = _
      rw [Nat.toList_repr, toDigits_eq_fixed] <;> simp only [bound] <;> omega
    rcases widths valid with ⟨month, day, -⟩
    rw [if_pos in_range, if_pos early]
    refine congrArg Except.ok ?_
    rw [← String.toList_inj, String.toList_ofList, internetChars]
    simp only [String.toList_append, List.append_assoc, year, toList_clock valid]
    simp only [Civil.moment]
    rw [toList_zeroPadded (by decide) month, toList_zeroPadded (by decide) day,
      toList_zeroPadded (by decide) milli_width]
  · have out_of_range : ¬(1 ≤ civil.moment.year ∧ civil.moment.year ≤ 9999) := by
      simp only [Civil.moment]
      omega
    rw [if_neg out_of_range, if_neg early]

/-! ## Order -/

/-- An earlier time has a smaller text. -/
theorem internetChars_lt (valid : civil.Valid) (other_valid : other.Valid) (year : civil.year ≤ 9999)
    (other_year : other.year ≤ 9999) {milli otherMilli : Nat} (small : milli < 1000)
    (other_small : otherMilli < 1000)
    (earlier : civil.Before other ∨ civil = other ∧ milli < otherMilli) :
    internetChars civil milli < internetChars other otherMilli := by
  rcases widths valid with ⟨month, day, hour, minute, second⟩
  rcases widths other_valid with ⟨other_month, other_day, other_hour, other_minute, other_second⟩
  have year_width : civil.year < bound 4 := Nat.lt_succ_of_le year
  have other_year_width : other.year < bound 4 := Nat.lt_succ_of_le other_year
  have milli_width : milli < bound 3 := small
  have other_milli_width : otherMilli < bound 3 := other_small
  have signs : ∀ (sign : Char) (text other : List Char), sign :: text < sign :: other ↔ text < other :=
    fun sign text other => List.cons_lt_cons_self
  simp only [internetChars, clockChars, List.append_assoc, String.reduceToList, List.cons_append,
    List.nil_append, signs, fixed_append_lt_iff year_width other_year_width,
    fixed_append_lt_iff month other_month, fixed_append_lt_iff day other_day,
    fixed_append_lt_iff hour other_hour, fixed_append_lt_iff minute other_minute,
    fixed_append_lt_iff second other_second, fixed_append_lt_iff milli_width other_milli_width]
  rcases earlier with before | ⟨rfl, milli_lt⟩
  · simp only [Civil.Before, Civil.DateBefore] at before
    omega
  · omega

/-- The date and time of day of an event, and its text. -/
theorem exists_internet_eq (natural : 0 ≤ event.timestampMs) :
    ∃ civil : Civil, civil.Valid ∧ civil.seconds = event.seconds ∧
      (civil.year ≤ 9999 ↔ event.timestampMs < 253402300800000) ∧
      internet event = if civil.year ≤ 9999 then .ok (String.ofList (internetChars civil event.millis))
        else .error (.outOfRange event.seconds) := by
  rcases Civil.exists_moment_eq (seconds_natural natural) with ⟨civil, valid, leads, told⟩
  have from_epoch : 0 ≤ civil.seconds := by
    rw [leads]
    exact seconds_natural natural
  have time := time_eq event
  have milli := millis_lt event
  refine ⟨civil, valid, leads, ?_, internet_eq valid from_epoch told⟩
  rw [civil.year_le_iff valid, leads]
  omega

theorem internet_lt {others : Event} {text otherText : String} (natural : 0 ≤ event.timestampMs)
    (made : internet event = .ok text) (other_made : internet others = .ok otherText)
    (earlier : event.timestampMs < others.timestampMs) : text < otherText := by
  rcases exists_internet_eq natural with ⟨civil, valid, leads, -, written⟩
  rcases exists_internet_eq (show 0 ≤ others.timestampMs by omega) with
    ⟨other, other_valid, other_leads, -, other_written⟩
  rw [written] at made
  rw [other_written] at other_made
  split at made
  case isFalse => cases made
  case isTrue year =>
    split at other_made
    case isFalse => cases other_made
    case isTrue other_year =>
      cases made
      cases other_made
      rw [String.lt_iff, String.toList_ofList, String.toList_ofList]
      apply internetChars_lt valid other_valid year other_year (millis_lt event) (millis_lt others)
      have time := time_eq event
      have other_time := time_eq others
      have milli := millis_lt event
      have other_milli := millis_lt others
      by_cases same : event.seconds = others.seconds
      · refine .inr ⟨Civil.eq_of_seconds_eq valid other_valid (by rw [leads, other_leads, same]), ?_⟩
        omega
      · refine .inl ((Civil.seconds_lt_iff valid other_valid).mp ?_)
        rw [leads, other_leads]
        omega

/-- The texts of two events compare as their times. -/
theorem internet_compare {other : Event} {text otherText : String} (natural : 0 ≤ event.timestampMs)
    (other_natural : 0 ≤ other.timestampMs) (made : internet event = .ok text)
    (other_made : internet other = .ok otherText) :
    compare text otherText = compare event.timestampMs other.timestampMs := by
  show compareOfLessAndEq text otherText = compareOfLessAndEq event.timestampMs other.timestampMs
  rw [compareOfLessAndEq, compareOfLessAndEq]
  rcases Int.lt_trichotomy event.timestampMs other.timestampMs with earlier | same | later
  · have smaller := internet_lt natural made other_made earlier
    rw [if_pos smaller, if_pos earlier]
  · have seconds : event.seconds = other.seconds := by rw [Event.seconds, Event.seconds, same]
    have millis : event.millis = other.millis := by rw [Event.millis, Event.millis, same]
    rw [internet, seconds, millis, ← internet, other_made] at made
    cases made
    rw [if_neg (String.lt_irrefl _), if_pos rfl, if_neg (by omega), if_pos same]
  · have greater := internet_lt other_natural other_made made later
    have differs : text ≠ otherText := by
      rintro rfl
      exact String.lt_irrefl _ greater
    rw [if_neg (String.lt_asymm greater), if_neg differs, if_neg (by omega), if_neg (by omega)]

/-- The text of the internet standard of an event with a time from the epoch on. It fails exactly from
the year 10000 on. Otherwise it has 24 characters, which are read as a date and time of day with
milliseconds that obey the rules of the calendar and lead to the time of the event, and the texts of two
events compare as their times. -/
theorem internet_exact (event : Event) (natural : 0 ≤ event.timestampMs) :
    (253402300800000 ≤ event.timestampMs ↔
        internet event = .error (.outOfRange event.seconds)) ∧
      (event.timestampMs < 253402300800000 → ∃ text civil milli, internet event = .ok text ∧
        text.length = 24 ∧ readInternet? text = some (civil, milli) ∧ civil.Valid ∧ milli < 1000 ∧
          civil.seconds * 1000 + milli = event.timestampMs) ∧
      ∀ other : Event, 0 ≤ other.timestampMs → ∀ text otherText, internet event = .ok text →
        internet other = .ok otherText →
          compare text otherText = compare event.timestampMs other.timestampMs := by
  rcases exists_internet_eq natural with ⟨civil, valid, leads, early_iff, written⟩
  refine ⟨?_, ?_, ?_⟩
  · rw [written]
    split
    case isTrue early =>
      have in_time := early_iff.mp early
      simp only [reduceCtorEq, iff_false]
      omega
    case isFalse late =>
      have out_of_time := mt early_iff.mpr late
      simp only [iff_true]
      omega
  · intro early
    have year := early_iff.mpr early
    refine ⟨_, civil, event.millis, by rw [written, if_pos year], ?_,
      readInternet?_internetChars valid year (millis_lt event), valid, millis_lt event, ?_⟩
    · rw [String.length_ofList, length_internetChars]
    · rw [leads, time_eq event]
  · intro other other_natural text otherText made other_made
    exact internet_compare natural other_natural made other_made

/-- An event on the leap day of a full century. -/
def leapDay : Event := ⟨"link up", 1, 134, 1, 951827696789⟩

theorem internet_exact_leapDay :
    0 ≤ leapDay.timestampMs ∧ internet leapDay = .ok "2000-02-29T12:34:56.789Z" ∧
      readInternet? "2000-02-29T12:34:56.789Z" = some (⟨2000, 2, 29, 12, 34, 56⟩, 789) ∧
        Civil.seconds ⟨2000, 2, 29, 12, 34, 56⟩ * 1000 + 789 = 951827696789 := by
  have natural : 0 ≤ leapDay.timestampMs := by decide
  have made : internet leapDay = .ok "2000-02-29T12:34:56.789Z" := rfl
  have reads : readInternet? "2000-02-29T12:34:56.789Z" =
      some (⟨2000, 2, 29, 12, 34, 56⟩, 789) := rfl
  rcases (internet_exact leapDay natural).2.1 (by decide) with
    ⟨text, civil, milli, also_made, -, also_reads, -, -, time⟩
  rw [made] at also_made
  cases also_made
  rw [reads] at also_reads
  cases also_reads
  exact ⟨natural, made, reads, time⟩

end Stamp

end LogRelay
