import LogRelay.Proofs.Options.Build
import LogRelay.Proofs.Options.Readings
import Mathlib.Data.List.Nodup

/-!
# Valid configurations

The values for options may be of any kind, and a configuration made of them keeps the bounds of its
options all the same: what an option reads is within its bounds, and so is its default
(`Config.setting_cases`). The two bounds on seconds are the exception. They refuse what is less than
the bound, and what is no number is less than nothing, so it passes both. It is the only value that does
without being in bounds (`Config.ofAssignments_valid`, `Config.nan_delay_taken`).
-/

namespace LogRelay

open LogRelay.Fallible
open Options (Value)

namespace Double

/-- The first number is at most the second. What is no number compares with nothing. -/
def AtMost (left right : Double) : Prop :=
  left.isNaN = false ∧ right.isNaN = false ∧ left.scaled ≤ right.scaled

theorem isNaN_or_atMost {least number : Double} (is_number : least.isNaN = false)
    (not_less : number.less least = false) : number.isNaN = true ∨ least.AtMost number := by
  cases nan : number.isNaN with
  | true => exact .inl rfl
  | false =>
      right
      refine ⟨is_number, nan, ?_⟩
      simpa [less, nan, is_number] using not_less

end Double

namespace OptionValue

/-- A value that is a number for a double, but stands for no number. -/
def IsNaN (value : Value) : Prop :=
  ∃ number, toDouble value = .number number ∧ number.isNaN = true

theorem double_eq_ok {name : String} {least : Double} {value : Value} {number : Double}
    (reads : double name least value = .ok number) :
    toDouble value = .number number ∧ number.less least = false := by
  rw [double] at reads
  split at reads
  · cases reads
  · rcases bind_eq_ok.mp reads with ⟨_, -, fails⟩
    cases fails
  · rename_i found is_found
    simp only at reads
    split at reads
    · cases reads
    · rename_i not_less
      cases reads
      exact ⟨is_found, by simpa using not_less⟩

theorem port_bounds {value : Value} {number : Int} (reads : port value = .ok number) :
    1 ≤ number ∧ number ≤ 65535 := by
  rcases bind_eq_ok.mp reads with ⟨found, is_found, checked⟩
  simp only at checked
  split at checked
  · rcases bind_eq_ok.mp checked with ⟨_, -, fails⟩
    cases fails
  · rename_i not_above
    cases checked
    exact ⟨(integer_eq_ok is_found).2 1 rfl, Int.not_lt.mp not_above⟩

theorem sizeInBytes_bounds {value : Value} {size : Int} (reads : sizeInBytes value = .ok size) :
    0 < size ∧ 1024 ∣ size := by
  rcases bind_eq_ok.mp reads with ⟨kilobytes, -, made⟩
  cases made
  constructor
  · omega
  · exact Int.dvd_mul_left ..

theorem level_mem {value : Value} {name : String} (reads : level value = .ok name) :
    name ∈ levelNames := by
  rcases bind_eq_ok.mp reads with ⟨word, -, checked⟩
  simp only at checked
  split at checked
  · rename_i known
    cases checked
    simpa using known
  · rcases bind_eq_ok.mp checked with ⟨shown, -, fails⟩
    cases fails

end OptionValue

namespace Config

open OptionValue WordedConfig

/-- A configuration made of the values in a mapping is valid. -/
structure Valid (assignments : Assignments) (config : WordedConfig) : Prop where
  lines : 0 ≤ config.lines
  /-- Host and port to send to are given together or not at all. -/
  paired : config.remoteHost.isSome = config.remotePort.isSome
  port : ∀ port, config.remotePort = some port → 1 ≤ port ∧ port ≤ 65535
  /-- The file is never rotated if no size is given for it. -/
  unsized : (∀ value, (.logSize, value) ∈ assignments → value = .null) → config.logSize = 0
  sized : ∀ value, (.logSize, value) ∈ assignments → value ≠ .null →
    0 < config.logSize ∧ 1024 ∣ config.logSize
  /-- The delay is in bounds, unless a value that is no number is given for it. -/
  delay : Double.thousandth.AtMost config.retryDelay ↔
    ¬∃ value, (.retryDelay, value) ∈ assignments ∧ IsNaN value
  /-- The interval is in bounds, unless a value that is no number is given for it. -/
  interval : (Double.zero false).AtMost config.statsInterval ↔
    ¬∃ value, (.statsInterval, value) ∈ assignments ∧ IsNaN value
  level : config.logLevel ∈ levelNames
  flags : ∀ key ∈ [Key.udp, .nullTrailer, .timestamp, .follow], ∃ flag,
    config.setting key = .flag flag

theorem eq_of_mem {assignments : Assignments} (distinct : (assignments.map Prod.fst).Nodup)
    {key : Key} {value other : Value} (mem : (key, value) ∈ assignments)
    (other_mem : (key, other) ∈ assignments) : other = value := by
  cases List.inj_on_of_nodup_map distinct mem other_mem rfl
  rfl

/-- A number of seconds is in bounds, unless a value that is no number is given for it. -/
theorem atMost_iff {assignments : Assignments} (distinct : (assignments.map Prod.fst).Nodup)
    {config : WordedConfig} (built : ofAssignments assignments = .ok config) {key : Key} {name : String}
    {least seconds default : Double} (is_number : least.isNaN = false)
    (reads : ∀ value, reading key value = (double name least value).map .double)
    (said : config.setting key = .double seconds)
    (said_default : ({} : WordedConfig).setting key = .double default)
    (in_bounds : least.AtMost default) :
    least.AtMost seconds ↔ ¬∃ value, (key, value) ∈ assignments ∧ IsNaN value := by
  rcases setting_cases built key with ⟨value, mem, -, is_read⟩ | ⟨not_given, is_default⟩
  · rw [said, reads, map_eq_ok] at is_read
    rcases is_read with ⟨found, is_found, same⟩
    cases same
    rcases double_eq_ok is_found with ⟨is_value, not_less⟩
    constructor
    · rintro ⟨-, number, -⟩ ⟨other, other_mem, nan, is_nan, no_number⟩
      rw [eq_of_mem distinct mem other_mem, is_value] at is_nan
      cases is_nan
      rw [number] at no_number
      cases no_number
    · intro numbers
      rcases Double.isNaN_or_atMost is_number not_less with no_number | at_most
      · exact absurd ⟨value, mem, seconds, is_value, no_number⟩ numbers
      · exact at_most
  · rw [said, said_default] at is_default
    cases is_default
    refine iff_of_true in_bounds ?_
    rintro ⟨value, mem, nan, is_nan, -⟩
    rw [not_given value mem] at is_nan
    cases is_nan

/-- Every configuration that a mapping from options to any values makes is valid. -/
theorem ofAssignments_valid {assignments : Assignments}
    (distinct : (assignments.map Prod.fst).Nodup) {config : WordedConfig}
    (built : ofAssignments assignments = .ok config) : Valid assignments config := by
  have read_of (key : Key) := setting_cases built key
  constructor
  case lines => exact lines_of_build built
  case paired =>
    rcases exists_readings built with ⟨-, -, -, paired⟩
    exact paired
  case port =>
    intro port is_port
    have told : config.setting .remotePort = .integer port := by
      rw [setting, is_port]
      rfl
    rcases read_of .remotePort with ⟨value, -, -, is_read⟩ | ⟨-, is_default⟩
    · rw [told] at is_read
      rcases map_eq_ok.mp is_read with ⟨number, is_number, same⟩
      cases same
      exact port_bounds is_number
    · rw [told] at is_default
      cases is_default
  case unsized =>
    intro not_given
    rcases read_of .logSize with ⟨value, mem, not_null, -⟩ | ⟨-, is_default⟩
    · exact absurd (not_given value mem) not_null
    · exact Value.integer.inj is_default
  case sized =>
    intro value mem not_null
    rcases read_of .logSize with ⟨other, -, -, is_read⟩ | ⟨not_given, -⟩
    · rcases map_eq_ok.mp is_read with ⟨size, is_size, same⟩
      cases same
      exact sizeInBytes_bounds is_size
    · exact absurd (not_given value mem) not_null
  case delay =>
    refine atMost_iff distinct built (by decide +kernel) (fun _ => rfl) rfl rfl ?_
    exact ⟨by decide +kernel, by decide +kernel, by decide +kernel⟩
  case interval =>
    refine atMost_iff distinct built (by decide +kernel) (fun _ => rfl) rfl rfl ?_
    exact ⟨by decide +kernel, by decide +kernel, by decide +kernel⟩
  case level =>
    rcases read_of .logLevel with ⟨value, -, -, is_read⟩ | ⟨-, is_default⟩
    · rcases map_eq_ok.mp is_read with ⟨name, is_name, same⟩
      rw [← Wording.ofText_injective (Value.text.inj same)]
      exact level_mem is_name
    · have usual : config.logLevel = "INFO" := Wording.ofText_injective (Value.text.inj is_default)
      rw [usual]
      decide
  case flags =>
    intro key key_mem
    simp only [List.mem_cons, List.not_mem_nil, or_false] at key_mem
    rcases key_mem with rfl | rfl | rfl | rfl <;> exact ⟨_, rfl⟩

/-- Values of many kinds, some of them at the edge of what an option takes. -/
def mixedValues : Assignments :=
  [(.remotePort, .text " 65_535 "), (.lines, .null), (.logSize, .integer (-3)),
    (.retryDelay, .double (.infinity false)), (.remoteHost, .emptyList), (.logLevel, .text "warn"),
    (.follow, .text "YES")]

theorem ofAssignments_valid_mixedValues :
    (mixedValues.map Prod.fst).Nodup ∧ ∃ config, ofAssignments mixedValues = .ok config ∧
      Valid mixedValues config ∧ config.remotePort = some 65535 ∧ config.logSize = 1024 ∧
      config.remoteHost = some (Wording.ofText "[]") ∧ config.logLevel = "WARN" ∧
        config.follow = true := by
  have distinct : (mixedValues.map Prod.fst).Nodup := by decide
  have made : (ofAssignments mixedValues).toOption = some
      { remotePort := some 65535, logSize := 1024, retryDelay := .infinity false,
        remoteHost := some (Wording.ofText "[]"), logLevel := "WARN", follow := true } := by
    decide +kernel
  have built := toOption_eq_some.mp made
  exact ⟨distinct, _, built, ofAssignments_valid distinct built, rfl, rfl, rfl, rfl, rfl⟩

/-- What is no number passes as a number of seconds. -/
theorem nan_delay_taken : ∃ config,
    ofAssignments [(.retryDelay, .text "nan"), (.statsInterval, .double .nan)] = .ok config ∧
      ¬Double.thousandth.AtMost config.retryDelay ∧
      ¬(Double.zero false).AtMost config.statsInterval := by
  have made : (ofAssignments [(.retryDelay, .text "nan"), (.statsInterval, .double .nan)]).toOption =
      some { retryDelay := .nan, statsInterval := .nan } := by
    decide +kernel
  have no_number : Double.nan.isNaN = true := by decide +kernel
  refine ⟨_, toOption_eq_some.mp made, ?_, ?_⟩
  · rintro ⟨-, number, -⟩
    cases number.symm.trans no_number
  · rintro ⟨-, number, -⟩
    cases number.symm.trans no_number

end Config

end LogRelay
