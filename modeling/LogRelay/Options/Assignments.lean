import LogRelay.Options.Key
import LogRelay.Options.Value

/-!
# Values for options

Options are given in several layers: by a file, by the environment and by the command line. A later
layer prevails over an earlier one, option by option. Values are read in their order, in which an
option keeps its place when a later layer gives it another value.
-/

namespace LogRelay

open Options (Value)

/-- Values for options, each option at most once. -/
abbrev Assignments := List (Key × Value)

/-- The environment: names and what they stand for, each name at most once. -/
abbrev Environment := List (String × Wording)

namespace Assignments

/-- Gives an option a value, in the place of the value it has or behind all others. -/
def put (key : Key) (value : Value) : Assignments → Assignments
  | [] => [(key, value)]
  | (other, old) :: assignments =>
      if other = key then (key, value) :: assignments
      else (other, old) :: put key value assignments

/-- The values of one layer with those of a later layer over them. -/
def override (assignments later : Assignments) : Assignments :=
  later.foldl (fun made (key, value) => put key value made) assignments

/-- The values that the environment gives to options. -/
def ofEnvironment (environment : Environment) : Assignments :=
  Key.all.filterMap fun key =>
    (environment.lookup key.environmentName).map fun text => (key, .text text)

end Assignments

end LogRelay
