import LogRelay.Blob.Table
import LogRelay.Journal

/-!
# Log events

A log event is what one record of the log tells: a message, a number, a priority, the source that
logged it and the time in milliseconds since the epoch. On the wire it is a table with five members,
each of a type of its own. Other members are left out, and a table that lacks one of the five makes
no event.
-/

namespace LogRelay

open Blob

/-- One event of the log. -/
structure Event where
  message : String
  id : Int
  priority : Int
  source : Int
  timestampMs : Int
  deriving DecidableEq, Repr

namespace Event

/-- The whole seconds of the time. -/
def seconds (event : Event) : Int :=
  event.timestampMs / 1000

/-- The milliseconds of the time beyond its whole seconds. -/
def millis (event : Event) : Nat :=
  (event.timestampMs % 1000).toNat

/-- The type that each member of a record must have. -/
def policy : Policy
  | "msg" => some Kind.string.code
  | "id" => some Kind.int32.code
  | "priority" => some Kind.int32.code
  | "source" => some Kind.int32.code
  | "time" => some Kind.int64.code
  | _ => none

/-- The event that a table tells, if it has all members. -/
def ofTable? (table : Table) : Option Event :=
  match table.get? "msg", table.get? "id", table.get? "priority", table.get? "source",
      table.get? "time" with
  | some (.text message), some (.integer id), some (.integer priority), some (.integer source),
      some (.integer timestampMs) => some ⟨message, id, priority, source, timestampMs⟩
  | _, _, _, _, _ => none

/-- Reads the payload of a record: the fault that makes it malformed, or the event if it has all
members. -/
def read (payload : List UInt8) : Except Fault (Option Event) :=
  (parseTable policy payload).map ofTable?

/-- The event in the payload of a record. A malformed payload and one that lacks a member make none,
and the former is noted in the journal. -/
def parse (payload : List UInt8) : Option Event × Journal :=
  match read payload with
  | .ok event => (event, [])
  | .error fault =>
      (none, [⟨.debug, .records, "Malformed record payload: " ++ fault.message?.getD ""⟩])

/-- The members of the record of an event. -/
def items (event : Event) : List Item :=
  [⟨"msg", Kind.string.code, .text event.message⟩,
    ⟨"id", Kind.int32.code, .integer event.id⟩,
    ⟨"priority", Kind.int32.code, .integer event.priority⟩,
    ⟨"source", Kind.int32.code, .integer event.source⟩,
    ⟨"time", Kind.int64.code, .integer event.timestampMs⟩]

/-- The record of an event as one frame of the stream. -/
def encode (event : Event) : Except Fault (List UInt8) :=
  encodeFrame event.items

end Event

end LogRelay
