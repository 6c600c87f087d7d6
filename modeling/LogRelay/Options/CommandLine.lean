import LogRelay.Number.Numeral
import LogRelay.Options.Assignments
import LogRelay.Options.Switch

/-!
# The command line

A word that begins with a hyphen is a switch, and never the text that another switch takes. A long name
can be cut short as long as it is the only one that begins so. A text can follow a long name behind an
equality sign, and a short name directly; short names without texts can be written together. Nothing is
a switch behind a word of two hyphens.

All words are told apart before the first switch has an effect. Words that belong to nothing are an
error, but only when all switches have had theirs.
-/

namespace LogRelay

open Options (Value)

/-- Why a command line is refused. -/
inductive UsageFault where
  | ambiguous (word : Wording) (switches : List Switch)
  | tooFew (switch : Switch)
  | needless (switch : Switch) (text : Wording)
  | notInteger (switch : Switch) (text : Wording)
  | notDouble (switch : Switch) (text : Wording)
  | unrecognized (words : List Wording)
  deriving DecidableEq, Repr

namespace UsageFault

/-- The message for a refused command line. -/
def message (fault : UsageFault) : String :=
  match fault with
  | ambiguous word switches =>
      "ambiguous option: " ++ word.escaped ++ " could match " ++
        ", ".intercalate (switches.map Switch.long)
  | tooFew switch =>
      "argument " ++ switch.title ++ ": expected " ++
        (if switch.purpose.arity = 1 then "one argument"
        else toString switch.purpose.arity ++ " arguments")
  | needless switch text =>
      "argument " ++ switch.title ++ ": ignored explicit argument " ++ text.quoted
  | notInteger switch text =>
      "argument " ++ switch.title ++ ": invalid int value: " ++ text.quoted
  | notDouble switch text =>
      "argument " ++ switch.title ++ ": invalid float value: " ++ text.quoted
  | unrecognized words => "unrecognized arguments: " ++ " ".intercalate (words.map Wording.escaped)

end UsageFault

/-! ## Telling the words apart -/

/-- What a word of the command line is. -/
inductive Word where
  /-- A switch, and the text within the word that is meant for it. -/
  | mention (switch : Switch) (short : Bool) (given : Option Wording)
  /-- A word that looks like a switch and is none. -/
  | unknown
  /-- Any other word. -/
  | plain
  deriving DecidableEq, Repr

namespace Word

/-- The parts of a word before and behind its first equality sign. -/
def splitAtSign (word : Wording) : Wording × Option Wording :=
  let before := word.takeWhile (· != .char '=')
  match word.drop before.length with
  | _ :: behind => (before, some behind)
  | [] => (before, none)

/-- A switch as the word that names it, which may be its short name. -/
def ofName (switch : Switch) (name : Wording) (given : Option Wording) : Word :=
  .mention switch (switch.short.map Wording.ofText == some name) given

/-- A word that has the exact name of no switch and begins with a hyphen: the name of a switch cut
short, or a short name with a text behind it. -/
def ofInexact (word : Wording) : Except UsageFault Word :=
  let fallback : Word := if word.contains (.char ' ') then .plain else .unknown
  match word with
  | .char '-' :: .char '-' :: _ =>
      let (name, given) := splitAtSign word
      match Switch.abbreviatedBy name with
      | [] => .ok fallback
      | [switch] => .ok (.mention switch false given)
      | switches => .error (.ambiguous word switches)
  | .char '-' :: letter :: text =>
      match Switch.named? [.char '-', letter] with
      | some switch => .ok (.mention switch true (some text))
      | none => .ok fallback
  | _ => .ok .plain

/-- What a word is. -/
def ofWording (word : Wording) : Except UsageFault Word :=
  match word with
  | .char '-' :: others =>
      if others.isEmpty then .ok .plain
      else match Switch.named? word with
        | some switch => .ok (ofName switch word none)
        | none =>
            match splitAtSign word with
            | (name, some given) =>
                match Switch.named? name with
                | some switch => .ok (ofName switch name (some given))
                | none => ofInexact word
            | _ => ofInexact word
  | _ => .ok .plain

/-- What the words of a command line are, up to a word of two hyphens, and how many words follow that
are nothing, with that word itself. -/
def ofWordings : List Wording → Except UsageFault (List (Wording × Word) × List Wording)
  | [] => .ok ([], [])
  | text :: texts =>
      if text = "--" then .ok ([], text :: texts)
      else do
        let word ← ofWording text
        let (words, others) ← ofWordings texts
        pure ((text, word) :: words, others)

end Word

/-! ## Switches and their texts -/

/-- A switch with the texts that it takes. -/
structure Use where
  switch : Switch
  texts : List Wording
  deriving DecidableEq, Repr

/-- The use of a switch that takes its texts from the words behind it, all of them plain. -/
def Use.ofWords (switch : Switch) (words : List (Wording × Word)) : Except UsageFault Use :=
  let plain := (words.take switch.purpose.arity).takeWhile fun (_, word) => word == .plain
  if plain.length = switch.purpose.arity then .ok ⟨switch, plain.map Prod.fst⟩
  else .error (.tooFew switch)

/-- The uses that one word makes, of its switch and of the short names written behind it, and how many
words behind it the last of them takes. -/
def Use.ofGiven (words : List (Wording × Word)) (switch : Switch) (short : Bool)
    (given : Wording) : Except UsageFault (List Use × Nat) :=
  match switch.purpose.arity, given with
  | 1, given => .ok ([⟨switch, [given]⟩], 0)
  | 0, letter :: others =>
      match if short then Switch.named? [.char '-', letter] else none with
      | none => .error (.needless switch (letter :: others))
      | some next => do
          let (uses, taken) ← if others.isEmpty then do
              pure ([← Use.ofWords next words], next.purpose.arity)
            else ofGiven words next true others
          pure (⟨switch, []⟩ :: uses, taken)
  | 0, [] => .error (.needless switch "")
  | _, _ => .error (.tooFew switch)

/-- The uses that a word makes, and how many words behind it they take. -/
def Use.ofMention (words : List (Wording × Word)) (switch : Switch) (short : Bool)
    (given : Option Wording) : Except UsageFault (List Use × Nat) :=
  match given with
  | some given => Use.ofGiven words switch short given
  | none => do pure ([← Use.ofWords switch words], switch.purpose.arity)

/-! ## What the command line says -/

/-- What the command line says. -/
structure CommandLine where
  /-- The values that switches give to options, in the order of their first use. -/
  assignments : Assignments
  /-- The host and the port to send to. -/
  remote : Option (Wording × Wording)
  /-- The path of the file of options. -/
  file : Option Wording
  /-- The words that belong to nothing, the last one first. -/
  others : List Wording

/-- Why a command line says nothing. -/
inductive CommandLineStop where
  /-- It asks for help. -/
  | help
  | refused (fault : UsageFault)
  deriving DecidableEq, Repr

namespace CommandLine

/-- The command line that says nothing yet. -/
def blank : CommandLine := ⟨[], none, none, []⟩

/-- Gives an option a value. -/
def put (line : CommandLine) (key : Key) (value : Value) : CommandLine :=
  { line with assignments := line.assignments.put key value }

/-- Lets a switch have its effect. Two hyphens, which only a switch within the same word can take, count
as no text at all. -/
def apply (line : CommandLine) (use : Use) : Except CommandLineStop CommandLine :=
  match use.switch.purpose, use.texts with
  | .help, _ => .error .help
  | .turnOn key, _ => .ok (line.put key (.flag true))
  | .remote, [host, port] => .ok { line with remote := some (host, port) }
  | .file, [text] => .ok { line with file := if text = "--" then some [] else some text }
  | .text key, [text] => .ok (line.put key (if text = "--" then .emptyList else .text text))
  | .integer key, [text] =>
      if text = "--" then .ok (line.put key (.emptyList))
      else match Numeral.readInt? text.shown with
        | some number => .ok (line.put key (.integer number))
        | none => .error (.refused (.notInteger use.switch text))
  | .double key, [text] =>
      if text = "--" then .ok (line.put key (.emptyList))
      else match Numeral.readDouble? text.shown with
        | some number => .ok (line.put key (.double number))
        | none => .error (.refused (.notDouble use.switch text))
  | _, _ => .error (.refused (.tooFew use.switch))

/-- Reads words, of which the first ones have been taken by an earlier switch. -/
def readWords (line : CommandLine) : (taken : Nat) → List (Wording × Word) →
    Except CommandLineStop CommandLine
  | _, [] => .ok line
  | taken + 1, _ :: words => readWords line taken words
  | 0, (_, .mention switch short given) :: words =>
      match Use.ofMention words switch short given with
      | .error fault => .error (.refused fault)
      | .ok (uses, taken) => do
          let line ← uses.foldlM apply line
          readWords line taken words
  | 0, (text, _) :: words => readWords { line with others := text :: line.others } 0 words

/-- Reads the words of a command line. -/
def read (texts : List Wording) : Except CommandLineStop CommandLine := do
  match Word.ofWordings texts with
  | .error fault => throw (.refused fault)
  | .ok (words, ignored) =>
      let line ← blank.readWords 0 words
      let others := line.others.reverse ++ ignored
      if others.isEmpty then pure line else throw (.refused (.unrecognized others))

/-- The values for options. Host and port come last. -/
def allAssignments (line : CommandLine) : Assignments :=
  line.assignments ++ match line.remote with
    | some (host, port) => [(.remoteHost, .text host), (.remotePort, .text port)]
    | none => []

/-! ## Help -/

/-- How the program is called. -/
def usage : List String :=
  ["usage: logread-shipper [--help] [-s SOCKET_PATH] [-l LINES]",
    "                       [-e FILTER_PATTERN] [-r SERVER PORT] [-F LOG_FILE]",
    "                       [-S LOG_SIZE] [-p PID_FILE] [-h HOSTNAME] [-P PREFIX]",
    "                       [-T TEMPLATE] [-f] [-u] [-t] [-0]",
    "                       [--retry-delay RETRY_DELAY]",
    "                       [--stats-interval STATS_INTERVAL]",
    "                       [--log-level LOG_LEVEL] [--config CONFIG]"]

/-- What the program is for, and its switches. -/
def description : List String :=
  ["",
    "Ship log records to stdout, a rotated file, or a remote syslog server.",
    "",
    "options:",
    "  --help                Show this help and exit",
    "  -s SOCKET_PATH, --socket SOCKET_PATH",
    "                        Path to the log source socket",
    "  -l LINES, --lines LINES",
    "                        Only the last COUNT messages",
    "  -e FILTER_PATTERN, --filter FILTER_PATTERN",
    "                        Filter messages with a regexp",
    "  -r SERVER PORT, --remote SERVER PORT",
    "                        Stream messages to a server",
    "  -F LOG_FILE, --file LOG_FILE",
    "                        Log file",
    "  -S LOG_SIZE, --size LOG_SIZE",
    "                        Log size in KB before rotation",
    "  -p PID_FILE, --pid-file PID_FILE",
    "                        PID file",
    "  -h HOSTNAME, --hostname HOSTNAME",
    "                        Add hostname to the message",
    "  -P PREFIX, --prefix PREFIX",
    "                        Prefix custom text to streamed messages",
    "  -T TEMPLATE, --template TEMPLATE",
    "                        Custom log output template",
    "  -f, --follow          Follow log messages",
    "  -u, --udp             Use UDP as the protocol",
    "  -t, --timestamp       Add an extra timestamp",
    "  -0, --null-trailer    Use \\0 instead of \\n as trailer when using TCP",
    "  --retry-delay RETRY_DELAY",
    "                        Seconds between reconnect attempts (default: 1.0)",
    "  --stats-interval STATS_INTERVAL",
    "                        Log delivery stats every N seconds (default: off)",
    "  --log-level LOG_LEVEL",
    "                        Diagnostic log level (default: INFO)",
    "  --config CONFIG       Path to YAML config file"]

end CommandLine

namespace CommandLineStop

/-- What goes to standard output when the command line says nothing. -/
def output : CommandLineStop → String
  | help => String.join ((CommandLine.usage ++ CommandLine.description).map (· ++ "\n"))
  | refused _ => ""

/-- What goes to standard error when the command line says nothing. -/
def errors : CommandLineStop → String
  | help => ""
  | refused fault =>
      String.join (CommandLine.usage.map (· ++ "\n")) ++
        "logread-shipper: error: " ++ fault.message ++ "\n"

/-- The exit status when the command line says nothing. -/
def status : CommandLineStop → Nat
  | help => 0
  | refused _ => 2

end CommandLineStop

end LogRelay
