/-!
# Names of codes

A priority holds the severity of an event in its low three bits and the facility that logged it in
the bits above. Each code has a name, and where a code is listed twice its first name is used.
-/

namespace LogRelay.Codes

/-- What stands for a code that has no name. -/
def unknownName : String := "<unknown>"

/-- The first name listed for a code. -/
def name (table : List (String × Int)) (code : Int) : String :=
  match table.find? fun (_, value) => value == code with
  | some (name, _) => name
  | none => unknownName

/-- The facilities. -/
def facilities : List (String × Int) :=
  [("auth", 4), ("authpriv", 10), ("cron", 9), ("daemon", 3), ("ftp", 11), ("kern", 0), ("lpr", 6),
    ("mail", 2), ("mark", 24), ("news", 7), ("security", 4), ("syslog", 5), ("user", 1), ("uucp", 8),
    ("local0", 16), ("local1", 17), ("local2", 18), ("local3", 19), ("local4", 20), ("local5", 21),
    ("local6", 22), ("local7", 23)]

/-- The severities. -/
def severities : List (String × Int) :=
  [("alert", 1), ("crit", 2), ("debug", 7), ("emerg", 0), ("err", 3), ("error", 3), ("info", 6),
    ("none", 16), ("notice", 5), ("panic", 0), ("warn", 4), ("warning", 4)]

/-- The name of the facility in a priority, which takes seven bits. -/
def facility (priority : Int) : String :=
  name facilities (priority / 8 % 128)

/-- The name of the severity in a priority. -/
def severity (priority : Int) : String :=
  name severities (priority % 8)

/-- The name of a source of events, a dash for one that has none. -/
def source (code : Int) : String :=
  if code = 0 then "kernel"
  else if code = 1 then "syslog"
  else if code = 2 then "internal"
  else "-"

end LogRelay.Codes
