import LogRelay.Text.Quoted

/-!
# Failures of the operating system

A call of the operating system fails with a number and a text, and names the paths that it was given.
Some failures only say that nothing can be had at once. A call can also fail for reasons of its own:
an address that is no valid name, an argument that makes no sense, or a defect. Those do not come from
the operating system, and callers treat them differently.
-/

namespace LogRelay

/-- Where a failure comes from. -/
inductive FaultKind where
  /-- The operating system. -/
  | system
  /-- The operating system: nothing can be done without waiting. -/
  | wouldBlock
  /-- The operating system: a signal came first. -/
  | interrupted
  /-- The operating system: too much time went by. -/
  | timeout
  /-- The operating system: a connection could not be made or kept. -/
  | connection
  /-- A text that cannot be encoded. -/
  | encoding
  /-- A value that makes no sense. -/
  | value
  /-- A defect. -/
  | defect
  deriving DecidableEq, Repr

namespace FaultKind

/-- Whether the operating system reported the failure. -/
def isSystem : FaultKind → Bool
  | system | wouldBlock | interrupted | timeout | connection => true
  | encoding | value | defect => false

end FaultKind

/-- A call that failed. -/
structure SystemFault where
  kind : FaultKind
  number : Option Int
  text : String
  /-- The paths that the call was given, if the failure names them. -/
  paths : List String
  deriving DecidableEq, Repr

namespace SystemFault

/-- The kind of a failure with a number. -/
def kindOf (number : Int) : FaultKind :=
  if number = 11 ∨ number = 114 ∨ number = 115 then .wouldBlock
  else if number = 4 then .interrupted
  else .system

/-- The failure with a number and a text. -/
def numbered (number : Int) (text : String) : SystemFault :=
  ⟨kindOf number, some number, text, []⟩

/-- A failure without a number. -/
def named (kind : FaultKind) (text : String) : SystemFault :=
  ⟨kind, none, text, []⟩

/-- The failure as a call that was given some paths reports it. -/
def about (fault : SystemFault) (paths : List String) : SystemFault :=
  { fault with paths := paths }

/-- Whether the operating system reported the failure. -/
def isSystem (fault : SystemFault) : Bool :=
  fault.kind.isSystem

/-- Whether a later attempt may succeed. -/
def isTransient (fault : SystemFault) : Bool :=
  fault.kind == .wouldBlock || fault.kind == .interrupted

/-- The message of a failure. -/
def message (fault : SystemFault) : String :=
  match fault.number with
  | none => fault.text
  | some number =>
      "[Errno " ++ toString number ++ "] " ++ fault.text ++
        match fault.paths with
        | [] => ""
        | paths => ": " ++ " -> ".intercalate (paths.map Text.quoted)

/-- A path or a part of it that does not exist. -/
def noSuchEntry : SystemFault := numbered 2 "No such file or directory"

/-- A descriptor that is not open. -/
def badDescriptor : SystemFault := numbered 9 "Bad file descriptor"

/-- A name that cannot be moved or removed. -/
def busy : SystemFault := numbered 16 "Device or resource busy"

/-- A name that is taken. -/
def alreadyExists : SystemFault := numbered 17 "File exists"

/-- A file where a directory is needed. -/
def notDirectory : SystemFault := numbered 20 "Not a directory"

/-- A directory where a file is needed. -/
def isDirectory : SystemFault := numbered 21 "Is a directory"

/-- A directory that would be moved into itself. -/
def invalidMove : SystemFault := numbered 22 "Invalid argument"

/-- A path or a part of it that is too long. -/
def nameTooLong : SystemFault := numbered 36 "File name too long"

/-- A directory that must be empty and is not. -/
def notEmpty : SystemFault := numbered 39 "Directory not empty"

/-- A path with a zero byte, which no call takes. -/
def zeroInPath : SystemFault := named .value "embedded null byte"

/-- A text that cannot be encoded. -/
def unencodable : SystemFault := named .encoding "surrogates not allowed"

end SystemFault

end LogRelay
