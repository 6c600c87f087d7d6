import LogRelay.Options.Reader

/-!
# Why there is no configuration

A wrong option is refused with a message. Some values come to grief before they can be refused: a
number without bounds, a value that cannot be shown, a file that cannot be read at all.
-/

namespace LogRelay

open Options (ShowFault)

/-- Why options make no configuration. -/
inductive OptionFault where
  | notInteger (name : String) (quoted : Wording)
  | notNumber (name : String) (quoted : Wording)
  | belowInteger (name : String) (least number : Int)
  | belowDouble (name : String) (least number : Double)
  | portTooGreat (number : Int)
  | unknownLevel (quoted : Wording)
  /-- One of the two options of a remote host was given without the other. -/
  | unpaired
  /-- A file whose bytes make no document. -/
  | badDocument (path : Wording) (fault : DocumentFault)
  /-- A document that holds something other than options. -/
  | notMapping (path : Wording)
  /-- A number beyond all bounds. -/
  | unbounded
  /-- A value that cannot be shown. -/
  | unshown (fault : ShowFault)
  /-- An option that does not exist. -/
  | unknownOption (name : String)
  /-- Names of options that are no texts. -/
  | unnamed
  /-- A file that cannot be read. -/
  | unreadable (fault : SystemFault)

namespace OptionFault

/-- The message of a refused option, and none for the other faults. -/
def message? : OptionFault → Option String
  | notInteger name quoted => some (name ++ " must be an integer, got " ++ quoted.escaped)
  | notNumber name quoted => some (name ++ " must be a number, got " ++ quoted.escaped)
  | belowInteger name least number =>
      some (name ++ " must be >= " ++ toString least ++ ", got " ++ toString number)
  | belowDouble name least number =>
      some (name ++ " must be >= " ++ least.render ++ ", got " ++ number.render)
  | portTooGreat number => some ("remote_port must be <= 65535, got " ++ toString number)
  | unknownLevel quoted => some ("unknown log_level " ++ quoted.escaped)
  | unpaired => some "remote_host and remote_port must be given together"
  | badDocument path (.invalid reason) =>
      some ("invalid YAML in " ++ path.escaped ++ ": " ++ reason)
  | notMapping path => some (path.escaped ++ " must contain a mapping of options")
  | badDocument _ .undecodable | badDocument _ (.broken _) | unbounded | unshown _ | unknownOption _
    | unnamed | unreadable _ => none

/-- Whether the options were refused with a message. -/
def isRefusal (fault : OptionFault) : Bool :=
  fault.message?.isSome

end OptionFault

end LogRelay
