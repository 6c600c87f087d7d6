import LogRelay.Proofs.Record.Grammar
import LogRelay.Render.Stamp

/-!
# Times that have texts

The year of a time is bounded by the number of days since the epoch. So each time that a record can
hold has a classic text, and it has a text of the internet standard unless it lies beyond the year
9999.
-/

namespace LogRelay

namespace Calendar

/-- Each year that is over has had 365 days at least. -/
theorem yearDay_bounds {day : Nat} (inside : day < cycleDays) :
    (yearDay day).year ≤ 399 ∧ 365 * (yearDay day).year + (yearDay day).day ≤ day := by
  simp only [yearDay, cycleDays] at *
  omega

/-- Before the last year of a cycle is ten months old, a later day means an earlier year. -/
theorem yearDay_last (day : Nat) (before : day < 146037) :
    (yearDay day).year < 399 ∨ (yearDay day).day < 306 := by
  simp only [yearDay]
  omega

/-- The first second of the year 10000. -/
def yearTenThousand : Int := 253402300800

variable {seconds : Int}

/-- The year is told by a number of cycles and a day that is left over. -/
theorem exists_cycle (natural : 0 ≤ seconds) :
    ∃ cycle day : Nat, seconds / 86400 + epochDays = (cycle * cycleDays + day : Nat) ∧
      day < cycleDays ∧ (moment seconds).year = cycle * 400 + (yearDay day).year +
        if monthOfDay (yearDay day).day < 10 then 0 else 1 := by
  have passed : 0 ≤ seconds / 86400 + epochDays := by
    simp only [epochDays]
    omega
  rcases Int.eq_ofNat_of_zero_le passed with ⟨days, days_eq⟩
  refine ⟨days / cycleDays, days % cycleDays, ?_, Nat.mod_lt _ (by decide), ?_⟩
  · rw [days_eq, Nat.mul_comm, Nat.div_add_mod]
  · simp only [moment, days_eq]
    rfl

theorem year_pos (natural : 0 ≤ seconds) : 1 ≤ (moment seconds).year := by
  rcases exists_cycle natural with ⟨cycle, day, days, inside, year⟩
  simp only [epochDays, cycleDays] at days inside
  rw [year]
  omega

/-- A year has more than 364 days. -/
theorem year_le (natural : 0 ≤ seconds) :
    (moment seconds).year ≤ seconds / 86400 / 365 + 1973 := by
  rcases exists_cycle natural with ⟨cycle, day, days, inside, year⟩
  have bounds := yearDay_bounds inside
  simp only [epochDays, cycleDays] at days
  rw [year]
  split <;> omega

theorem year_le_of_early (natural : 0 ≤ seconds) (early : seconds < yearTenThousand) :
    (moment seconds).year ≤ 9999 := by
  rcases exists_cycle natural with ⟨cycle, day, days, inside, year⟩
  have bounds := yearDay_bounds inside
  simp only [epochDays, cycleDays] at days inside
  simp only [yearTenThousand] at early
  rw [year]
  -- The year 10000 begins in the last year of the cycle of the year 9600.
  rcases Nat.lt_or_ge cycle 24 with before | last
  · split <;> omega
  · rcases yearDay_last day (by omega) with earlier | inside
    · split <;> omega
    · have month : monthOfDay (yearDay day).day < 10 := by
        rw [monthOfDay]
        omega
      rw [if_pos month]
      omega

end Calendar

namespace Stamp

variable {event : Event} {fault : RenderFault}

theorem seconds_nonneg (fits : event.Fits) : 0 ≤ event.seconds := by
  have natural := fits.time.1
  rw [Event.seconds]
  omega

/-- The years of all times of 64 bits in milliseconds fit into 32 bits. -/
theorem year_fits (natural : 0 ≤ event.timestampMs) (bounded : event.timestampMs < 0x10000000000000000) :
    -0x80000000 ≤ (Calendar.moment event.seconds).year - 1900 ∧
      (Calendar.moment event.seconds).year - 1900 < 0x80000000 := by
  have from_epoch : 0 ≤ event.seconds := by
    rw [Event.seconds]
    omega
  have above := Calendar.year_pos from_epoch
  have below := Calendar.year_le from_epoch
  rw [Event.seconds] at *
  omega

/-- Each time of 64 bits in milliseconds has a classic text. -/
theorem exists_classic (fits : event.Fits) : ∃ text, classic event.seconds = .ok text := by
  rw [classic, if_pos (year_fits fits.time.1 fits.time.2)]
  exact ⟨_, rfl⟩

theorem exists_classicHeader (fits : event.Fits) :
    ∃ text, classicHeader event.seconds = .ok text := by
  rcases exists_classic fits with ⟨text, classic_eq⟩
  rw [classicHeader, classic_eq]
  exact ⟨_, rfl⟩

/-- A time has no text of the internet standard only from the year 10000 on. -/
theorem late_of_internet (fits : event.Fits) (fails : internet event = .error fault) :
    fault = .outOfRange event.seconds ∧ Calendar.yearTenThousand ≤ event.seconds := by
  rw [internet] at fails
  split at fails
  case isTrue => cases fails
  case isFalse outside =>
    cases fails
    refine ⟨rfl, ?_⟩
    by_contra early
    exact outside ⟨Calendar.year_pos (seconds_nonneg fits),
      Calendar.year_le_of_early (seconds_nonneg fits) (Int.not_le.mp early)⟩

end Stamp

end LogRelay
