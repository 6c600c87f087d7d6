import LogRelay.Options.Key

/-!
# Switches of the command line

A switch has a long name and mostly a short one. Some switches give a truth value by being there, the
others take one text or two.
-/

namespace LogRelay

/-- What a switch is for. -/
inductive Purpose where
  /-- Asks for help. -/
  | help
  /-- Turns an option on. -/
  | turnOn (key : Key)
  /-- Gives an option a text. -/
  | text (key : Key)
  /-- Gives an option a whole number. -/
  | integer (key : Key)
  /-- Gives an option a number. -/
  | double (key : Key)
  /-- Names the host and the port to send to. -/
  | remote
  /-- Names the file of options. -/
  | file
  deriving DecidableEq, Repr

namespace Purpose

/-- How many texts a switch takes. -/
def arity : Purpose → Nat
  | help | turnOn _ => 0
  | text _ | integer _ | double _ | file => 1
  | remote => 2

end Purpose

/-- A switch of the command line. -/
structure Switch where
  short : Option String
  long : String
  purpose : Purpose
  deriving DecidableEq, Repr

namespace Switch

/-- All switches, in their order. -/
def all : List Switch :=
  [⟨none, "--help", .help⟩,
    ⟨some "-s", "--socket", .text .socketPath⟩,
    ⟨some "-l", "--lines", .integer .lines⟩,
    ⟨some "-e", "--filter", .text .filterPattern⟩,
    ⟨some "-r", "--remote", .remote⟩,
    ⟨some "-F", "--file", .text .logFile⟩,
    ⟨some "-S", "--size", .integer .logSize⟩,
    ⟨some "-p", "--pid-file", .text .pidFile⟩,
    ⟨some "-h", "--hostname", .text .hostname⟩,
    ⟨some "-P", "--prefix", .text .prefixText⟩,
    ⟨some "-T", "--template", .text .template⟩,
    ⟨some "-f", "--follow", .turnOn .follow⟩,
    ⟨some "-u", "--udp", .turnOn .udp⟩,
    ⟨some "-t", "--timestamp", .turnOn .timestamp⟩,
    ⟨some "-0", "--null-trailer", .turnOn .nullTrailer⟩,
    ⟨none, "--retry-delay", .double .retryDelay⟩,
    ⟨none, "--stats-interval", .double .statsInterval⟩,
    ⟨none, "--log-level", .text .logLevel⟩,
    ⟨none, "--config", .file⟩]

/-- The names of a switch. -/
def names (switch : Switch) : List String :=
  switch.short.toList ++ [switch.long]

/-- The switch as messages show it. -/
def title (switch : Switch) : String :=
  "/".intercalate switch.names

/-- The switch with exactly this name. -/
def named? (name : Wording) : Option Switch :=
  all.find? fun switch => (switch.names.map Wording.ofText).contains name

/-- The switches whose long name begins with a text. -/
def abbreviatedBy (text : Wording) : List Switch :=
  all.filter fun switch => text.isPrefixOf (Wording.ofText switch.long)

end Switch

end LogRelay
