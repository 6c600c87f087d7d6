import LogRelay.Options.Load
import LogRelay.Proofs.Fallible

/-!
# What holds of every configuration

A configuration is made by assigning one option after the other. What holds of the defaults and is kept
by every assignment holds of every configuration that values make (`Config.build_keeps`).
-/

namespace LogRelay

open LogRelay.Fallible
open Options (Value)

/-- A whole number that is read is the value as a number, and it is not below the least one. -/
theorem OptionValue.integer_eq_ok {name : String} {least : Option Int} {value : Value} {number : Int}
    (reads : integer name least value = .ok number) :
    toInteger value = .number number ∧ ∀ bound, least = some bound → bound ≤ number := by
  rw [integer] at reads
  split at reads
  · cases reads
  · rcases bind_eq_ok.mp reads with ⟨_, -, fails⟩
    cases fails
  · rename_i found made
    split at reads
    · rename_i bound
      simp only at reads
      split at reads
      · rcases bind_eq_ok.mp reads with ⟨_, -, fails⟩
        cases fails
      · rename_i not_below
        cases reads
        refine ⟨made, ?_⟩
        rintro _ ⟨⟩
        exact Int.not_lt.mp not_below
    · cases reads
      refine ⟨made, ?_⟩
      rintro _ ⟨⟩

namespace Config

theorem build_keeps {keeps : WordedConfig → Prop} (defaults : keeps {})
    (assigns : ∀ config key value after, keeps config → config.assign key value = .ok after →
      keeps after)
    {values : List (String × Value)} {config : WordedConfig} (built : build values = .ok config) :
    keeps config := by
  have assigns_named : ∀ (config : WordedConfig) (item : String × Value)
      (after : WordedConfig), keeps config →
      config.assignNamed item.1 item.2 = .ok after → keeps after := by
    rintro config ⟨name, value⟩ after kept assigned
    simp only [WordedConfig.assignNamed] at assigned
    split at assigned
    · exact assigns config _ value after kept assigned
    · rcases bind_eq_ok.mp assigned with ⟨text, -, same⟩
      cases same
      exact kept
  rcases bind_eq_ok.mp built with ⟨made, assigned, checked⟩
  have kept := foldlM_keeps (fun config item _ => assigns_named config item) defaults assigned
  cases unpaired : made.remoteHost.isSome != made.remotePort.isSome with
  | true =>
      simp only [unpaired, if_true] at checked
      cases checked
  | false =>
      simp only [unpaired, Bool.false_eq_true, if_false] at checked
      split at checked
      · cases checked
      · cases checked
        exact kept

theorem lines_assign {config after : WordedConfig} {key : Key} {value : Value}
    (natural : 0 ≤ config.lines) (assigned : config.assign key value = .ok after) :
    0 ≤ after.lines := by
  cases key
  case lines =>
    rcases bind_eq_ok.mp assigned with ⟨number, reads, made⟩
    cases made
    exact (OptionValue.integer_eq_ok reads).2 0 rfl
  all_goals
    rcases bind_eq_ok.mp assigned with ⟨read, -, made⟩
    cases made
    exact natural

/-- No configuration asks for a negative number of lines. -/
theorem lines_of_build {values : List (String × Value)} {config : WordedConfig}
    (built : build values = .ok config) : 0 ≤ config.lines :=
  build_keeps (by decide) (fun _ _ _ _ => lines_assign) built

theorem lines_of_load {reader : DocumentReader} {files : Files} {environment : Environment}
    {arguments : List Wording} {config : WordedConfig} {journal : Journal}
    (loaded : load reader files environment arguments = (.ok config, journal)) :
    0 ≤ config.lines := by
  rw [load] at loaded
  split at loaded
  · cases loaded
  · split at loaded
    · cases loaded
    · rename_i file notes read
      rcases Prod.mk.inj loaded with ⟨made, -⟩
      cases built : ofAssignments (layered file environment _) with
      | error fault =>
          rw [built] at made
          cases made
      | ok config =>
          rw [built] at made
          cases made
          exact lines_of_build built

end Config

end LogRelay
