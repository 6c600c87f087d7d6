/-!
# The journal

What the program says about itself. Every entry has a level, the part of the program that speaks, and
a text. Steps of the program return their entries in order, and only the outer layer writes them.
-/

namespace LogRelay

/-- How grave an entry is. -/
inductive Level where
  | debug
  | info
  | warning
  | error
  | critical
  deriving DecidableEq, Repr

namespace Level

/-- The name of a level in the journal. -/
def name : Level → String
  | debug => "DEBUG"
  | info => "INFO"
  | warning => "WARNING"
  | error => "ERROR"
  | critical => "CRITICAL"

/-- The rank of a level: the graver, the higher. -/
def rank : Level → Nat
  | debug => 10
  | info => 20
  | warning => 30
  | error => 40
  | critical => 50

end Level

/-- The parts of the program that speak. -/
inductive Speaker where
  | main
  | records
  | filter
  | formatter
  | stats
  | config
  | sink
  | delivery
  | source
  | relay
  deriving DecidableEq, Repr

namespace Speaker

/-- The name under which a part of the program speaks. -/
def name : Speaker → String
  | main => "logread"
  | records => "logread.records"
  | filter => "logread.filter"
  | formatter => "logread.formatter"
  | stats => "logread.stats"
  | config => "logread.config"
  | sink => "logread.sink"
  | delivery => "logread.pipeline"
  | source => "logread.source"
  | relay => "logread.shipper"

end Speaker

/-- One entry of the journal. -/
structure Entry where
  level : Level
  speaker : Speaker
  text : String
  deriving DecidableEq, Repr

namespace Entry

/-- The entry in one line. -/
def line (entry : Entry) : String :=
  entry.level.name ++ " " ++ entry.speaker.name ++ ": " ++ entry.text

end Entry

/-- Entries in the order in which they were made. -/
abbrev Journal := List Entry

end LogRelay
