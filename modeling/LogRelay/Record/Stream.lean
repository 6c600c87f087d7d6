import LogRelay.Record.Event

/-!
# The stream of records

Records arrive as frames, one attribute each, in pieces that may be cut anywhere. The decoder keeps
the bytes that no complete frame has used yet. A frame whose header states less than the header's own
length makes the rest of the buffer meaningless, and the decoder throws it away.

Readers take frames one at a time from the shared buffer. A reader that has come to the end of the
complete frames, or has met a corrupt one, never gives a frame again.
-/

namespace LogRelay

open Blob

/-- A frame that states a length below that of its header, and the bytes thrown away with it. -/
structure Corruption where
  declared : Nat
  discarded : Nat
  deriving DecidableEq, Repr

namespace Corruption

/-- The message of a corrupt frame. -/
def message (corruption : Corruption) : String :=
  "Frame declares length " ++ toString corruption.declared ++ "; discarded " ++
    toString corruption.discarded ++ " bytes"

end Corruption

/-- The bytes that have arrived and that no frame has used yet. -/
structure Decoder where
  buffer : List UInt8
  deriving DecidableEq, Repr

/-- What the buffer of a decoder begins with. -/
inductive Front where
  /-- Fewer bytes than a header, or fewer than the frame states. -/
  | incomplete
  | corrupt (corruption : Corruption)
  | frame (payload rest : List UInt8)
  deriving DecidableEq, Repr

namespace Decoder

/-- A decoder to which nothing has arrived. -/
def empty : Decoder := ⟨[]⟩

/-- How many bytes wait for the rest of their frame. -/
def pending (decoder : Decoder) : Nat :=
  decoder.buffer.length

/-- Adds bytes that have arrived. -/
def feed (decoder : Decoder) (chunk : List UInt8) : Decoder :=
  ⟨decoder.buffer ++ chunk⟩

/-- What a byte sequence begins with. A frame takes its stated length, without padding. -/
def front (bytes : List UInt8) : Front :=
  if bytes.length < headerSize then .incomplete
  else
    let length := (Header.ofWord (ofBigEndian (bytes.take headerSize))).length
    if length < headerSize then .corrupt ⟨length, bytes.length⟩
    else if bytes.length < length then .incomplete
    else .frame ((bytes.take length).drop headerSize) (bytes.drop length)

theorem length_rest_lt {bytes payload rest : List UInt8} (is_frame : front bytes = .frame payload rest) :
    rest.length < bytes.length := by
  simp only [front] at is_frame
  split at is_frame
  · cases is_frame
  · split at is_frame
    · cases is_frame
    · split at is_frame
      · cases is_frame
      · cases is_frame
        simp only [headerSize, List.length_drop] at *
        omega

/-- The payloads of all complete frames in a byte sequence, the corruption that ended them, if one
did, and the bytes left. -/
def split (bytes : List UInt8) : List (List UInt8) × Option Corruption × List UInt8 :=
  match _shape : front bytes with
  | .incomplete => ([], none, bytes)
  | .corrupt corruption => ([], some corruption, [])
  | .frame payload rest =>
      let (payloads, corruption, left) := split rest
      (payload :: payloads, corruption, left)
termination_by bytes.length
decreasing_by exact length_rest_lt _shape

end Decoder

/-- What a reader takes from the stream. -/
inductive Taken (Item : Type) where
  | item (item : Item)
  | finished
  | corrupt (corruption : Corruption)
  deriving Repr

namespace Taken

/-- The same with another item. -/
def map {Item Other : Type} (change : Item → Other) : Taken Item → Taken Other
  | item taken => item (change taken)
  | finished => finished
  | corrupt corruption => corrupt corruption

end Taken

/-- A reader of the frames of a decoder, which is spent once it has met the end or a corruption. -/
structure Reader where
  spent : Bool
  deriving DecidableEq, Repr

namespace Reader

/-- A reader that has taken nothing. -/
def start : Reader := ⟨false⟩

/-- Takes the payload of the next complete frame. -/
def next (reader : Reader) (decoder : Decoder) : Taken (List UInt8) × Reader × Decoder :=
  if reader.spent then (.finished, reader, decoder)
  else
    match Decoder.front decoder.buffer with
    | .incomplete => (.finished, ⟨true⟩, decoder)
    | .corrupt corruption => (.corrupt corruption, ⟨true⟩, .empty)
    | .frame payload rest => (.item payload, reader, ⟨rest⟩)

/-- Takes the event of the next complete frame, none for a malformed one. -/
def nextEvent (reader : Reader) (decoder : Decoder) :
    Taken (Option Event) × Reader × Decoder × Journal :=
  match reader.next decoder with
  | (.item payload, reader, decoder) =>
      let (event, journal) := Event.parse payload
      (.item event, reader, decoder, journal)
  | (.finished, reader, decoder) => (.finished, reader, decoder, [])
  | (.corrupt corruption, reader, decoder) => (.corrupt corruption, reader, decoder, [])

end Reader

end LogRelay
