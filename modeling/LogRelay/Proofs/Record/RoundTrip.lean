import LogRelay.Proofs.Blob.RoundTrip
import LogRelay.Proofs.Record.Grammar
import LogRelay.Proofs.Record.Readers

/-!
# Records that are written and read back

A record is a frame whose table has the five members of an event. It takes a multiple of four bytes,
which is why the next record stands right behind it, without padding. So the records of events, one
behind the other, are the frames of the stream, and wherever the stream is cut, draining the decoder
after every piece gives the events back, each with its message up to the first U+0000, and leaves
nothing in the buffer.

An event that was read from any payload has a message without U+0000. It is given back unchanged,
unless its record is longer than a header can say (`records_round_trip`).
-/

namespace LogRelay

open LogRelay.Blob LogRelay.Fallible LogRelay.Stream

namespace Stream

/-- Feeds pieces one by one and takes all that a new reader gives after each, until a corrupt frame is
met: the items, the corruption, and the decoder as it is left. -/
def takeAll (view : View) (decoder : Decoder) :
    List (List UInt8) → List Item × Option Corruption × Decoder
  | [] => ([], none, decoder)
  | piece :: pieces =>
      match view.drain .start (decoder.feed piece) with
      | (items, none, rest) =>
          let (later, ending) := takeAll view rest pieces
          (items ++ later, ending)
      | (items, some corruption, rest) => (items, some corruption, rest)

/-- Where no frame is corrupt, the items are those of the frames of the whole stream, and what is left
behind them stays in the buffer. -/
theorem takeAll_eq (view : View) (pieces : List (List UInt8)) {buffer : List UInt8}
    (lacks : IsPartial buffer) (readable : ¬IsCorrupt (remainder (buffer ++ pieces.flatten))) :
    takeAll view ⟨buffer⟩ pieces =
      ((frames (buffer ++ pieces.flatten)).map (fun frame => view.item (payload frame)), none,
        ⟨remainder (buffer ++ pieces.flatten)⟩) := by
  induction pieces generalizing buffer with
  | nil =>
      rw [List.flatten_nil, List.append_nil, remainder, frames_eq_nil_of_isPartial lacks]
      rfl
  | cons piece pieces ih =>
      -- Less than a frame is left behind the frames of this piece, as there was in front of it.
      have live : Reader.start.spent = false := rfl
      rcases exists_frames (buffer ++ piece) with ⟨rest, cut, are_frames, stops⟩
      have arrives : buffer ++ (piece :: pieces).flatten =
          (frames (buffer ++ piece)).flatten ++ (rest ++ pieces.flatten) := by
        rw [← List.append_assoc, ← cut, List.flatten_cons, ← List.append_assoc]
      rw [arrives, remainder_flatten_append are_frames] at readable
      have lacks_rest : IsPartial rest := isPartial_of_readable stops readable
      have drained := view.drain_flatten_append live are_frames rest
      rw [← cut, view.drain_of_isPartial live lacks_rest, List.append_nil] at drained
      rw [takeAll, Decoder.feed, drained]
      simp only [ih lacks_rest readable]
      rw [arrives, remainder_flatten_append are_frames, frames_flatten_append are_frames,
        List.map_append]

/-- A table in a frame is a frame of the stream, and its payload is the table. -/
theorem isFrame_of_encodeFrame {items : List Blob.Item} (storable : ∀ item ∈ items, item.Storable)
    {frame : List UInt8} (encoded : encodeFrame items = .ok frame) :
    IsFrame frame ∧ encodeTable items = .ok (payload frame) := by
  rcases encodeFrame_eq_ok storable encoded with ⟨header, table, rfl, is_table, decoded⟩
  have size : header.length = 4 := Header.length_of_decode_eq_ok decoded
  have enough : 4 ≤ (header ++ table).length := by
    rw [List.length_append, size]
    exact Nat.le_add_right ..
  refine ⟨⟨enough, ?_⟩, ?_⟩
  · rw [Header.decode, if_pos (show header.length = headerSize from size)] at decoded
    rw [declared?_eq_some enough, headerSize, List.take_left' size, Except.ok.inj decoded]
  · rw [payload, List.drop_left' size]
    exact is_table

/-- Frames in a row are given one by one, wherever they are cut, and nothing is left. -/
theorem takeAll_flatten (view : View) {whole : List (List UInt8)}
    (are_frames : ∀ frame ∈ whole, IsFrame frame) {pieces : List (List UInt8)}
    (cut : pieces.flatten = whole.flatten) :
    takeAll view .empty pieces =
      (whole.map fun frame => view.item (payload frame), none, .empty) := by
  have all_frames := frames_flatten_append are_frames []
  have left := remainder_flatten_append are_frames []
  rw [List.append_nil, frames_eq_nil_of_isPartial isPartial_nil, List.append_nil] at all_frames
  rw [List.append_nil, remainder_nil] at left
  have readable : ¬IsCorrupt (remainder ([] ++ pieces.flatten)) := by
    rw [List.nil_append, cut, left]
    rintro ⟨length, declares, -⟩
    cases declares
  have taken := takeAll_eq view pieces isPartial_nil readable
  rw [List.nil_append, cut, all_frames, left] at taken
  exact taken

end Stream

namespace Event

/-- The event with its message up to the first U+0000. -/
def untilZero (event : Event) : Event :=
  { event with message := Utf8.untilZero event.message }

/-! ## One record -/

theorem storable_items {event : Event} (fits : event.Fits) : ∀ item ∈ event.items, item.Storable := by
  simp only [items, List.forall_mem_cons, List.not_mem_nil, false_implies, implies_true, and_true]
  have short : ∀ name ∈ ["msg", "id", "priority", "source", "time"],
      (Utf8.encode name).length ≤ nameLimit := by decide
  have four : Kind.int32.width? = some 4 := rfl
  have eight : Kind.int64.width? = some 8 := rfl
  exact ⟨⟨short _ (by simp), .text _⟩,
    ⟨short _ (by simp), .integer four (by decide) fits.id.1 fits.id.2⟩,
    ⟨short _ (by simp), .integer four (by decide) fits.priority.1 fits.priority.2⟩,
    ⟨short _ (by simp), .integer four (by decide) fits.source.1 fits.source.2⟩,
    ⟨short _ (by simp), .integer eight (by decide) fits.time.1 fits.time.2⟩⟩

theorem policy_items (event : Event) : ∀ item ∈ event.items, policy item.name = some item.type := by
  simp only [items, List.forall_mem_cons, List.not_mem_nil, false_implies, implies_true, and_true]
  exact ⟨rfl, rfl, rfl, rfl, rfl⟩

/-- The entries of the record of an event tell the event. -/
theorem ofTable?_entries (event : Event) :
    ofTable? (Table.ofEntries (event.items.map Item.entry)) = some event.untilZero := by
  rfl

/-- A record is a frame of the stream, and its payload is read as the event. -/
theorem isFrame_encode {event : Event} (fits : event.Fits) {record : List UInt8}
    (encoded : event.encode = .ok record) :
    IsFrame record ∧ (parse (payload record)).1 = some event.untilZero := by
  have storable := storable_items fits
  rcases isFrame_of_encodeFrame storable encoded with ⟨is_frame, is_table⟩
  refine ⟨is_frame, ?_⟩
  rcases exists_members_of_encodeTable storable is_table with ⟨-, members, holds, are_stored⟩
  have wanted : ∀ item ∈ event.items, ∀ type : Nat, (type : Int) = item.type →
      decide (policy item.name = some (type : Int)) = true := by
    intro item item_mem type same
    rw [same, decide_eq_true (policy_items event item item_mem)]
  rw [parse_eq_some_iff, read, parseTable_eq, collect_readPart_of_stored wanted holds are_stored,
    Except.map, ofTable?_entries]

/-- A record that is not written is longer than a header can say. -/
theorem oversized_of_encode {event : Event} (fits : event.Fits) {fault : Fault}
    (fails : event.encode = .error fault) :
    (∃ length, fault = .oversized length) ∧
      lengthLimit < headerSize + tableSize event.items := by
  rcases oversized_of_encodeFrame (storable_items fits) fails with
    ⟨item, item_mem, is_oversized, long⟩ | ⟨is_oversized, long⟩
  · have below := size_le_tableSize item_mem
    exact ⟨⟨_, is_oversized⟩, by omega⟩
  · exact ⟨⟨_, is_oversized⟩, long⟩

/-- Events whose records are not longer than a header can say have records. -/
theorem exists_records {events : List Event} (fits : ∀ event ∈ events, event.Fits)
    (short : ∀ event ∈ events, headerSize + tableSize event.items ≤ lengthLimit) :
    ∃ records, List.Forall₂ (fun event record => event.encode = .ok record) events records := by
  induction events with
  | nil => exact ⟨[], .nil⟩
  | cons event events ih =>
      rcases ih (fun other other_mem => fits other (List.mem_cons_of_mem _ other_mem))
        (fun other other_mem => short other (List.mem_cons_of_mem _ other_mem)) with
        ⟨records, encoded⟩
      cases is_encoded : event.encode with
      | ok record => exact ⟨record :: records, .cons is_encoded encoded⟩
      | error fault =>
          have long := (oversized_of_encode (fits event (by simp)) is_encoded).2
          exact absurd (short event (by simp)) (Nat.not_le.mpr long)

/-! ## The stream -/

/-- The records of events are frames, and are given as these events. -/
theorem frames_of_records {events : List Event} {records : List (List UInt8)}
    (fits : ∀ event ∈ events, event.Fits)
    (encoded : List.Forall₂ (fun event record => event.encode = .ok record) events records) :
    (∀ record ∈ records, IsFrame record) ∧
      records.map (fun record => View.events.item (payload record)) =
        events.map fun event => .event (some event.untilZero) := by
  induction encoded with
  | nil => exact ⟨by simp, rfl⟩
  | @cons event record events records is_encoded encoded ih =>
      rcases ih fun other other_mem => fits other (List.mem_cons_of_mem _ other_mem) with
        ⟨are_frames, given⟩
      rcases isFrame_encode (fits event (by simp)) is_encoded with ⟨is_frame, parses⟩
      refine ⟨List.forall_mem_cons.mpr ⟨is_frame, are_frames⟩, ?_⟩
      rw [List.map_cons, List.map_cons, given, View.item, parses]

/-- Records in a row are given as their events, wherever they are cut, and nothing is left. -/
theorem takeAll_records {events : List Event} {records : List (List UInt8)}
    (fits : ∀ event ∈ events, event.Fits)
    (encoded : List.Forall₂ (fun event record => event.encode = .ok record) events records)
    {pieces : List (List UInt8)} (cut : pieces.flatten = records.flatten) :
    takeAll .events .empty pieces =
      (events.map fun event => .event (some event.untilZero), none, .empty) := by
  rcases frames_of_records fits encoded with ⟨are_frames, given⟩
  rw [takeAll_flatten .events are_frames cut, given]

/-- The stream of records gives back what was written. For all events whose numbers fit and whose
records can be written, and for every cut of the records in a row, draining the decoder after each
piece gives exactly these events in order, each with its message up to the first U+0000, and leaves
an empty buffer. An event that was read from whatever payload is given back as it is, unless its
record cannot be written, and then the record is longer than a header can say. -/
theorem records_round_trip :
    (∀ (events : List Event) (records pieces : List (List UInt8)),
      (∀ event ∈ events, event.Fits) →
      List.Forall₂ (fun event record => event.encode = .ok record) events records →
      pieces.flatten = records.flatten →
      takeAll .events .empty pieces =
        (events.map fun event => .event (some event.untilZero), none, .empty)) ∧
    (∀ (payload : List UInt8) (event : Event), (parse payload).1 = some event →
      (∃ record, event.encode = .ok record ∧ ∀ pieces : List (List UInt8), pieces.flatten = record →
        takeAll .events .empty pieces = ([.event (some event)], none, .empty)) ∨
      (∃ length, event.encode = .error (.oversized length)) ∧
        lengthLimit < headerSize + tableSize event.items) := by
  refine ⟨fun events records pieces fits encoded cut => takeAll_records fits encoded cut, ?_⟩
  intro payload event parses
  rcases fits_of_read (parse_eq_some_iff.mp parses) with ⟨fits, zeroless⟩
  have unchanged : event.untilZero = event := by
    rw [untilZero, Utf8.untilZero_eq_self zeroless]
  cases encoded : event.encode with
  | ok record =>
      left
      refine ⟨record, rfl, fun pieces cut => ?_⟩
      have given := takeAll_records (List.forall_mem_singleton.mpr fits) (.cons encoded .nil)
        (show pieces.flatten = [record].flatten by simpa using cut)
      rw [given, List.map_singleton, unchanged]
  | error fault =>
      right
      rcases oversized_of_encode fits encoded with ⟨⟨length, rfl⟩, long⟩
      exact ⟨⟨length, rfl⟩, long⟩

/-- An event with a U+0000 in its message, and one with the greatest numbers there are. -/
def extremes : List Event :=
  [⟨"a\x00b", 7, 14, 0, 1000⟩, ⟨"ü", 4294967295, 4294967295, 4294967295, 18446744073709551615⟩]

theorem records_round_trip_extremes :
    (∀ event ∈ extremes, event.Fits) ∧
      (∃ records, List.Forall₂ (fun event record => event.encode = .ok record) extremes records ∧
        takeAll .events .empty [records.flatten.take 98, records.flatten.drop 98] =
          ([.event (some ⟨"a", 7, 14, 0, 1000⟩),
            .event (some ⟨"ü", 4294967295, 4294967295, 4294967295, 18446744073709551615⟩)],
            none, .empty)) ∧
      (parse repeatedId).1 = some ⟨"a", 9, 14, 1, 1000⟩ ∧
      ∃ record, Event.encode ⟨"a", 9, 14, 1, 1000⟩ = .ok record ∧
        takeAll .events .empty [record] = ([.event (some ⟨"a", 9, 14, 1, 1000⟩)], none, .empty) := by
  have fits : ∀ event ∈ extremes, event.Fits := by
    simp only [extremes, List.forall_mem_cons, List.not_mem_nil, false_implies, implies_true,
      and_true]
    exact ⟨⟨by decide, by decide, by decide, by decide⟩, ⟨by decide, by decide, by decide, by decide⟩⟩
  have short : ∀ event ∈ extremes, headerSize + tableSize event.items ≤ lengthLimit := by decide
  have parses : (parse repeatedId).1 = some ⟨"a", 9, 14, 1, 1000⟩ := by decide +kernel
  refine ⟨fits, ?_, parses, ?_⟩
  · rcases exists_records fits short with ⟨records, encoded⟩
    refine ⟨records, encoded, ?_⟩
    exact records_round_trip.1 extremes records _ fits encoded (by simp)
  · rcases records_round_trip.2 repeatedId _ parses with ⟨record, encoded, given⟩ | ⟨-, long⟩
    · exact ⟨record, encoded, given [record] (by simp)⟩
    · exact absurd long (by decide)

end Event

end LogRelay
