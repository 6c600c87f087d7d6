import LogRelay.Program
import LogRelay.Yaml.Reader
import Std.Time

/-!
# The program on the command line

The layer between the program and the operating system. It gathers what the program finds around it, lets
the program take its steps on that, and carries out what they come to: what has been written to the
standard output and to files, and what the journal says.

The source is read as a pipe or a file, and nothing is asked of the network: a link stays without a
socket.
-/

namespace LogRelay.Outside

/-! ## What the program finds -/

/-- The content of a file, none if it cannot be read. -/
def contentOf (path : String) : IO (Option (List UInt8)) := do
  try
    let bytes ← IO.FS.readBinFile path
    pure (some bytes.toList)
  catch _ => pure none

/-- Whether there is something at a path. -/
def isPresent (path : String) : IO Bool := do
  try
    let _ ← IO.FS.realPath path
    pure true
  catch _ => pure false

/-- The directory that an entry is in. -/
def parentOf (path : String) : String :=
  let parent := Disk.textOf (Path.names path).dropLast
  if parent = "" then "." else parent

/-- A disk with what there is at some paths. A directory is known by an entry that it holds or could
hold. -/
def gather (paths : List String) : IO Disk := do
  let found ← paths.filterMapM fun path => do
    match ← contentOf path with
    | some content => pure (some (path, some content))
    | none =>
        let parent := parentOf path
        pure (if parent != "." && (← isPresent parent) then some (parent, none) else none)
  pure (Disk.ofListing found)

/-- The part of the environment that the program asks for. -/
def environment : IO Environment :=
  (Config.fileVariable :: Key.all.map Key.environmentName).filterMapM fun name => do
    pure ((← IO.getEnv name).map fun text => (name, .ofText text))

/-- The number of the process, zero if the system does not tell. -/
def processNumber : IO Nat := do
  match ← contentOf "/proc/self/stat" with
  | some content =>
      pure (Numeral.ofDigits ((content.takeWhile (· != 32)).map fun digit => digit.toNat - 48))
  | none => pure 0

/-! ## What comes of it -/

/-- Puts the content of a file to a path, behind what is there if that is how it begins. -/
def store (path : String) (old new : File) : IO Unit := do
  let grown := old.content.isPrefixOf new.content
  let handle ← IO.FS.Handle.mk path (if grown then IO.FS.Mode.append else IO.FS.Mode.write)
  let bytes := if grown then new.content.drop old.content.length else new.content
  handle.write ⟨bytes.toArray⟩

/-- Carries out what has changed between two states of the disk. -/
def carryOut (before after : Disk) : IO Unit := do
  let fileAt (disk : Disk) (location : Location) : Option File :=
    match disk.node? location with
    | some (.file number) => disk.file? number
    | _ => none
  for (location, _) in after.entries do
    match fileAt after location, fileAt before location with
    | some new, some old =>
        if new != old then store (Disk.textOf location) old new
    | some new, none =>
        store (Disk.textOf location) ⟨[], new.mode⟩ new
        if new.mode == FileSink.fileMode then
          IO.setAccessRights (Disk.textOf location) { user := { read := true, write := true } }
    | none, _ => pure ()
  for (location, _) in before.entries do
    if (after.node? location).isNone then IO.FS.removeFile (Disk.textOf location)

/-- Carries out what has changed between two states of the world. -/
def update (before after : World) : IO Unit := do
  carryOut before.disk after.disk
  let bytes := after.written.drop before.written.length
  let output ← IO.getStdout
  output.write ⟨bytes.toArray⟩
  output.flush

/-- The time of day as the journal shows it. -/
def timeText : IO String := do
  let now ← Std.Time.Timestamp.now
  let event : Event := ⟨"", 0, 0, 0, now.toMillisecondsSinceUnixEpoch.val⟩
  match Stamp.internet event with
  | .ok text => pure (((text.replace "T" " ").replace "." ",").replace "Z" "")
  | .error _ => pure ""

/-- Shows entries of the journal. -/
def say (journal : Journal) : IO Unit := do
  for entry in journal do
    IO.eprintln ((← timeText) ++ " [" ++ entry.level.name ++ "] " ++ entry.speaker.name ++ " - " ++
      entry.text)

/-! ## The client -/

/-- A failure as the client sees it. -/
def faultOf (error : IO.Error) : SystemFault :=
  match error with
  | .noFileOrDirectory _ _ _ => .noSuchEntry
  | error => .named .system error.toString

/-- Something that may fail. -/
def attempt {Value : Type} (action : IO Value) : IO (Except SystemFault Value) := do
  try
    pure (.ok (← action))
  catch error => pure (.error (faultOf error))

/-- The state of the world with the disk that the sink of a client writes to. -/
def worldOf (session : Session) (client : Client Sink.State) : World :=
  { session.world with disk := client.delivery.sink.2 }

/-- Lets the client do all that it waits for, and carries out what comes of each step. -/
partial def serve (session : Session) (rank : Nat) (source : Option IO.FS.Handle)
    (client : Client Sink.State) : IO (Client Sink.State) := do
  let goOn (source : Option IO.FS.Handle) (step : Client Sink.State × Journal) :
      IO (Client Sink.State) := do
    update (worldOf session client) (worldOf session step.1)
    say (Program.shown rank step.2)
    serve session rank source step.1
  let options := session.keeper.options
  match client.phase with
  | .connecting =>
      if client.pauses ≠ 0 then IO.sleep 1000
      match ← attempt (IO.FS.Handle.mk options.path .read) with
      | .ok handle => goOn (some handle) (client.onConnect options (.ok ()))
      | .error fault => goOn none (client.onConnect options (.error fault))
  | .sending => goOn source (client.onSent session.keeper.rules (.ok ()))
  | .reading =>
      let read : IO (List UInt8) := match source with
        | some handle => do pure (← handle.read 65536).toList
        | none => pure []
      goOn source (client.onRead session.keeper.rules (← attempt read))
  | .closing ending => goOn none (client.onClosed ending (.ok ()), [])
  | .ended _ => pure client

/-! ## The program -/

/-- The exit status of a program that breaks off, that would never end, or that is not followed. -/
def brokenStatus : UInt32 := 1

/-- Runs the relay with a configuration. -/
def runWith (config : Config) : IO UInt32 := do
  let paths := config.logFile.toList ++ config.logFile.toList.map (· ++ ".old") ++
    config.pidFile.toList
  let world := World.ofDisk (← gather paths) (← processNumber)
  let rank := Program.rankOf config.logLevel
  say (Program.shown rank [Program.startEntry config])
  let run ← match Relay.prepare config world with
    | .error run => do
        update world run.world
        say (Program.shown rank run.journal)
        pure run
    | .ok session => do
        update world session.world
        say (Program.shown rank session.journal)
        let client ← serve session rank none (.start session.keeper.options (.start session.sink))
        let run := Relay.conclude { session with journal := [] } ⟨client, [], []⟩
        update (worldOf session client) run.world
        say (Program.shown rank run.journal)
        pure run
  let (ending, last) := Program.endOf run
  say (Program.shown rank last)
  pure (match ending with
    | .status status => status.toUInt32
    | _ => brokenStatus)

/-- Ends the program without a configuration. -/
def refuse (fault : LoadFault) : IO UInt32 := do
  let run := Program.refuse (World.ofDisk .empty 0) [] fault
  say run.journal
  match run.ending with
  | .status status => pure status.toUInt32
  | .commandLine stop =>
      IO.print stop.output
      IO.eprint stop.errors
      pure stop.status.toUInt32
  | _ => pure brokenStatus

/-- The paths of files of options that the command line or the environment names. -/
def optionFiles (environment : Environment) (arguments : List Wording) : List String :=
  match CommandLine.read arguments with
  | .ok line => ((Config.filePath line environment).bind Wording.text?).toList.filter (· != "")
  | .error _ => []

/-- Loads the configuration and runs the relay with it. -/
def run (arguments : List String) : IO UInt32 := do
  let environment ← environment
  let arguments := arguments.map Wording.ofText
  let disk ← gather (optionFiles environment arguments)
  let (loaded, journal) := Config.load Yaml.reader disk.contents environment arguments
  say (Program.shown Level.info.rank journal)
  match loaded with
  | .error fault => refuse fault
  | .ok worded =>
      match worded.config? with
      | some config => runWith config
      | none => pure brokenStatus

end LogRelay.Outside

/-- Runs the program with the arguments of its command line. -/
def main (arguments : List String) : IO UInt32 :=
  LogRelay.Outside.run arguments
