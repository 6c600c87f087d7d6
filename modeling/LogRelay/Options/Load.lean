import LogRelay.Options.Build
import LogRelay.Options.CommandLine
import LogRelay.Options.Document

/-!
# Loading the configuration

The configuration is made of the defaults, the file of options, the environment and the command line, of
which each prevails over the ones before. The command line or else the environment names the file. What
documents say and what is in files is for the caller to tell.
-/

namespace LogRelay

/-- Why there is no configuration. -/
inductive LoadFault where
  | commandLine (stop : CommandLineStop)
  | options (fault : OptionFault)

namespace Config

/-- The name under which the environment has the path of the file of options. -/
def fileVariable : String := "LOGREAD_CONFIG"

/-- The path of the file of options. An empty one on the command line counts as none. -/
def filePath (line : CommandLine) (environment : Environment) : Option Wording :=
  match line.file with
  | some path => if path = [] then environment.lookup fileVariable else some path
  | none => environment.lookup fileVariable

/-- The values for options from all layers, given those of the file. -/
def layered (file : Assignments) (environment : Environment) (line : CommandLine) : Assignments :=
  (file.override (.ofEnvironment environment)).override line.allAssignments

/-- The configuration that values for options make. -/
def ofAssignments (assignments : Assignments) : Except OptionFault WordedConfig :=
  build (assignments.map fun (key, value) => (key.name, value))

/-- Loads the configuration. -/
def load (reader : DocumentReader) (files : Files) (environment : Environment)
    (arguments : List Wording) : Except LoadFault WordedConfig × Journal :=
  match CommandLine.read arguments with
  | .error stop => (.error (.commandLine stop), [])
  | .ok line =>
      match Assignments.ofPath reader files (filePath line environment) with
      | (.error fault, journal) => (.error (.options fault), journal)
      | (.ok file, journal) =>
          ((ofAssignments (layered file environment line)).mapError LoadFault.options, journal)

end Config

end LogRelay
