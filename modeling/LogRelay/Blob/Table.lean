import LogRelay.Blob.Attribute
import LogRelay.Number.Double

/-!
# Values and tables

A value is a string, which a zero byte ends, or a number of a fixed width. A table is a sequence of
extended attributes, the members, whose identifiers are the types of their values. When a name
occurs more than once its last value counts and its first place.

`decodeTable` reads all members. `parseTable` reads those that a policy names and leaves the others
out without reading their values.
-/

namespace LogRelay.Blob

/-- The values that a caller gives or gets. -/
inductive Value where
  | text (text : String)
  | integer (number : Int)
  | double (number : Double)
  /-- Anything that no attribute can hold. -/
  | foreign
  deriving DecidableEq

/-- The bytes of a value of the given type. A whole number that is given for a double becomes the
nearest double. -/
def encodeValue (type : Int) (value : Value) : Except Fault (List UInt8) :=
  match Kind.ofCode? type with
  | some .string =>
      match value with
      | .text text => .ok (Utf8.encode text ++ [0])
      | _ => .error .notText
  | some .double =>
      match value with
      | .double number => .ok (bigEndian 8 number.bits.toNat)
      | .integer number =>
          match Double.ofInt? number with
          | some double => .ok (bigEndian 8 double.bits.toNat)
          | none => .error .unfit
      | _ => .error .unfit
  | some kind =>
      match kind.width?, value with
      | some width, .integer number =>
          if 0 ≤ number ∧ number < Nat.pow 256 width then .ok (bigEndian width number.toNat)
          else .error .unfit
      | some _, _ => .error .unfit
      | none, _ => .error (.unwritable type)
  | none => .error (.unwritable type)

/-- Reads a value of the given type. A string ends at its first zero byte. -/
def decodeValue (type : Int) (bytes : List UInt8) : Except Fault Value :=
  match Kind.ofCode? type with
  | some .string =>
      if bytes.getLast? = some 0 then
        .ok (.text (Utf8.decodeLossy (bytes.takeWhile (· ≠ 0))))
      else .error .unterminated
  | some kind =>
      match kind.width? with
      | some width =>
          if bytes.length ≠ width then .error (.badWidth kind width bytes.length)
          else if kind = .double then .ok (.double ⟨UInt64.ofNat (ofBigEndian bytes)⟩)
          else .ok (.integer (ofBigEndian bytes))
      | none => .error (.unreadable type)
  | none => .error (.unreadable type)

/-- A member of a table to write: its name, the code of its type and its value. -/
structure Item where
  name : String
  type : Int
  value : Value

/-- The bytes of one member. -/
def encodeItem (item : Item) : Except Fault (List UInt8) := do
  let payload ← encodeValue item.type item.value
  encodeAttribute item.type payload (some item.name)

/-- The bytes of a table. -/
def encodeTable (items : List Item) : Except Fault (List UInt8) := do
  let members ← items.mapM encodeItem
  pure members.flatten

/-- The bytes of a table inside one plain attribute. -/
def encodeFrame (items : List Item) : Except Fault (List UInt8) := do
  let table ← encodeTable items
  encodeAttribute Kind.unspecified.code table none

/-- The values of a table by name, in the order in which the names first occurred. -/
abbrev Table := List (String × Value)

namespace Table

/-- Sets the value of a name, in its place if it has one and at the end if not. -/
def set (table : Table) (name : String) (value : Value) : Table :=
  match table with
  | [] => [(name, value)]
  | (other, old) :: rest =>
      if other = name then (name, value) :: rest else (other, old) :: set rest name value

/-- The value of a name. -/
def get? (table : Table) (name : String) : Option Value :=
  table.lookup name

end Table

/-- The name and the value bytes of a member. -/
def memberParts (member : Attribute) : Except Fault (String × List UInt8) :=
  if member.extended then splitName member.body else .error .unnamed

/-- Adds members to a table one by one. The fault that ended their search counts once the members
before it have been read. -/
def collect (add : Table → Attribute → Except Fault Table) (scan : Scan) : Except Fault Table := do
  let table ← scan.attributes.foldlM add []
  match scan.fault with
  | some fault => throw fault
  | none => pure table

/-- Reads all members of a table. -/
def decodeTable (bytes : List UInt8) : Except Fault Table :=
  collect (fun table member => do
    let (name, value) ← memberParts member
    let decoded ← decodeValue member.id value
    pure (table.set name decoded)) (scan bytes)

/-- Which names to read from a table, and the code of the type that each must have. -/
abbrev Policy := String → Option Int

/-- Reads the members whose name and type a policy asks for. -/
def parseTable (policy : Policy) (bytes : List UInt8) : Except Fault Table :=
  collect (fun table member => do
    let (name, value) ← memberParts member
    if policy name = some (member.id : Int) then
      let decoded ← decodeValue member.id value
      pure (table.set name decoded)
    else pure table) (scan bytes)

end LogRelay.Blob
