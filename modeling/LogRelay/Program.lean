import LogRelay.Options.Load
import LogRelay.Relay

/-!
# The program

The program loads its configuration and runs the relay. Its exit status is 0 for a run that was stopped
or that came to the end of the stream, 1 for one that could not open its sink or reach its source, and 2
for a configuration that is refused. Any other failure breaks it off.

The journal shows entries of a level and above: of information until the configuration has been loaded,
and then of the level that it says.

The program is followed for configurations in texts. What becomes of one with a wording that is no text
is left open.
-/

namespace LogRelay

/-- Why the program breaks off. -/
inductive Breakdown where
  | options (fault : OptionFault)
  | relay (fault : RelayFault)

/-- How the program ends. -/
inductive ProgramEnd where
  | status (status : Nat)
  /-- The command line asks for help or is refused. -/
  | commandLine (stop : CommandLineStop)
  | broken (breakdown : Breakdown)
  /-- The configuration has a wording that is no text, and the program is not followed further. -/
  | unfollowed
  /-- It never does. -/
  | never

/-- What the program comes to. Configuration and run are missing if there was no configuration. -/
structure ProgramRun where
  ending : ProgramEnd
  world : World
  journal : Journal
  config : Option Config
  run : Option RelayRun

/-- The files of a disk. All names on it are texts, so there is nothing at a path that is none, and some
wordings are no paths at all. -/
def Disk.contents (disk : Disk) : Files := fun path =>
  match path.text? with
  | some text => disk.read text
  | none => .error (if path.all Glyph.isNameable then .noSuchEntry else .unencodable)

namespace Failure

/-- The message about what finished a delivery. -/
def message : Failure → String
  | unopened fault => fault.message
  | unavailable path attempts =>
      "log source at " ++ path ++ " unavailable after " ++ toString attempts ++ " attempts"
  | other fault => fault.message

/-- Whether the program reports the failure and ends, rather than breaks off. -/
def isReported : Failure → Bool
  | unopened _ | unavailable _ _ => true
  | other _ => false

end Failure

namespace Program

/-- The rank of a level by its name, zero for the one that shows everything. -/
def rankOf (name : String) : Nat :=
  match name with
  | "CRITICAL" | "FATAL" => Level.critical.rank
  | "ERROR" => Level.error.rank
  | "WARN" | "WARNING" => Level.warning.rank
  | "INFO" => Level.info.rank
  | "DEBUG" => Level.debug.rank
  | _ => 0

/-- The entries of a rank and above. -/
def shown (rank : Nat) (journal : Journal) : Journal :=
  journal.filter fun entry => decide (rank ≤ entry.level.rank)

/-- The entry at the beginning of a run. -/
def startEntry (config : Config) : Entry :=
  ⟨.info, .main, "Starting log shipper - sink=" ++ config.sinkKind.name ++ ", follow=" ++
    (if config.follow then "True" else "False") ++ ", source=" ++ config.socketPath⟩

/-- How the program ends with a run, and what it says last. -/
def endOf (run : RelayRun) : ProgramEnd × Journal :=
  match run.result with
  | none => (.never, [])
  | some (.ok ()) => (.status 0, [])
  | some (.error (.delivery failure)) =>
      if failure.isReported then (.status 1, [⟨.error, .main, failure.message⟩])
      else (.broken (.relay (.delivery failure)), [])
  | some (.error fault) => (.broken (.relay fault), [])

/-- Runs the relay with a configuration. -/
def runWith (config : Config) (world : World) (script : Script) (journal : Journal) : ProgramRun :=
  let run := Relay.run config world script
  let (ending, last) := endOf run
  ⟨ending, run.world,
    journal ++ shown (rankOf config.logLevel) (startEntry config :: run.journal ++ last), some config,
    some run⟩

/-- Ends the program without a configuration. -/
def refuse (world : World) (journal : Journal) : LoadFault → ProgramRun
  | .commandLine stop => ⟨.commandLine stop, world, journal, none, none⟩
  | .options fault =>
      match fault.message? with
      | some message =>
          ⟨.status 2, world, journal ++ [⟨.error, .main, "Invalid configuration: " ++ message⟩], none,
            none⟩
      | none => ⟨.broken (.options fault), world, journal, none, none⟩

/-- The whole program. -/
def run (reader : DocumentReader) (world : World) (environment : Environment)
    (arguments : List Wording) (script : Script) : ProgramRun :=
  let (loaded, journal) := Config.load reader world.disk.contents environment arguments
  let journal := shown Level.info.rank journal
  match loaded with
  | .error fault => refuse world journal fault
  | .ok worded =>
      match worded.config? with
      | some config => runWith config world script journal
      | none => ⟨.unfollowed, world, journal, none, none⟩

end Program

end LogRelay
