import LogRelay.Delivery
import LogRelay.Proofs.Record.Frames

/-!
# Delivery from pieces of a stream

A delivery works off whatever has arrived. Its reference works off the frames of the whole stream,
one by one, and knows nothing of a buffer. As long as no header declares less than itself, both come
to the same, wherever the stream was cut: the sink is given the same texts and ends in the same
state, the same is counted, and the same record finishes the delivery, if one does.

The proof follows the recursion of `Delivery.drain` over the frames in the buffer (`drain_walks`),
and then goes by induction over the pieces. Between two pieces less than a whole frame is left in
the buffer, unless the delivery is finished, and a finished delivery has no more outcomes to come.
-/

namespace LogRelay

open LogRelay.Stream

/-! ## The reference -/

namespace SinkMachine

variable {State : Type}

/-- The same sink, which also remembers the texts that it was given. -/
def recording (machine : SinkMachine State) : SinkMachine (State × List String) where
  isConnected state := machine.isConnected state.1
  write state text :=
    let step := machine.write state.1 text
    ⟨(step.state, state.2 ++ [text]), step.result, step.journal, step.bumps⟩

/-- No failure comes out of the sink but that it cannot be opened. -/
def Contained (machine : SinkMachine State) : Prop :=
  ∀ state text fault, (machine.write state text).result ≠ .error (.escaped fault)

end SinkMachine

/-- What a delivery has come to, as it can be seen from outside. -/
structure Outcome (State : Type) where
  sink : State
  texts : List String
  stats : Stats
  finished : Bool
  failure : Option Failure

namespace Outcome

variable {State : Type}

/-- The outcome with one more of a counter. -/
def count (outcome : Outcome State) (counter : Counter) : Outcome State :=
  { outcome with stats := outcome.stats.bump counter }

end Outcome

namespace Rules

variable {State : Type}

/-- The same rules for a sink that remembers its texts. -/
def recording (rules : Rules State) : Rules (State × List String) where
  accepts := rules.accepts
  render := rules.render
  machine := rules.machine.recording
  follow := rules.follow

@[simp]
theorem accepts_recording (rules : Rules State) : rules.recording.accepts = rules.accepts := rfl

@[simp]
theorem render_recording (rules : Rules State) : rules.recording.render = rules.render := rfl

@[simp]
theorem isConnected_recording (rules : Rules State) (sink : State × List String) :
    rules.recording.machine.isConnected sink = rules.machine.isConnected sink.1 := rfl

/-- Gives a text to the sink once, and counts it by the answer. -/
def handOver (rules : Rules State) (outcome : Outcome State) (text : String) : Outcome State :=
  let step := rules.machine.write outcome.sink text
  let given := { outcome with
    sink := step.state
    texts := outcome.texts ++ [text]
    stats := outcome.stats.bumpAll step.bumps }
  match step.result with
  | .ok true => given.count .delivered
  | .ok false => given.count .failed
  | .error (.unopened fault) => { given with finished := true, failure := some (.unopened fault) }
  | .error (.escaped _) => given

/-- Works off one frame. -/
def handle (rules : Rules State) (outcome : Outcome State) (frame : List UInt8) : Outcome State :=
  let received := outcome.count .received
  if rules.machine.isConnected outcome.sink then
    match (Event.parse (payload frame)).1 with
    | none => received.count .dropped
    | some event =>
        if rules.accepts event.message then
          match rules.render event with
          | .ok text => rules.handOver received text
          | .error _ => received.count .dropped
        else received.count .filtered
  else received.count .dropped

/-- Works off frames in their order, up to the one that finishes the delivery. -/
def walk (rules : Rules State) (outcome : Outcome State) (whole : List (List UInt8)) :
    Outcome State :=
  whole.foldl (fun outcome frame => if outcome.finished then outcome else rules.handle outcome frame)
    outcome

theorem walk_append (rules : Rules State) (outcome : Outcome State)
    (earlier later : List (List UInt8)) :
    rules.walk outcome (earlier ++ later) = rules.walk (rules.walk outcome earlier) later :=
  List.foldl_append

theorem walk_of_finished (rules : Rules State) {outcome : Outcome State}
    (finished : outcome.finished = true) (whole : List (List UInt8)) :
    rules.walk outcome whole = outcome := by
  induction whole with
  | nil => rfl
  | cons frame whole ih =>
      rw [walk, List.foldl_cons, if_pos finished]
      exact ih

theorem walk_cons (rules : Rules State) {outcome : Outcome State}
    (unfinished : outcome.finished = false) (frame : List UInt8) (whole : List (List UInt8)) :
    rules.walk outcome (frame :: whole) = rules.walk (rules.handle outcome frame) whole := by
  rw [walk, List.foldl_cons, if_neg (by simp [unfinished])]
  rfl

end Rules

/-! ## One record -/

namespace Delivery

variable {State : Type}

/-- What a delivery to a sink that remembers its texts has come to. -/
def outcome (delivery : Delivery (State × List String)) : Outcome State :=
  ⟨delivery.sink.1, delivery.sink.2, delivery.stats, delivery.finished, delivery.failure⟩

variable {rules : Rules State} {delivery : Delivery (State × List String)}

theorem decoder_deliver {delivery : Delivery State} (rules : Rules State) (record : Option Event) :
    (delivery.deliver rules record).delivery.decoder = delivery.decoder := by
  rw [deliver]
  cases rules.deliver delivery.sink record with
  | mk state result journal bumps =>
      rcases result with (_ | _) | _
      · simp only [stop]
        split <;> rfl
      · rfl
      · rfl

/-- What a text comes to that is given to the sink. -/
theorem deliver_of_rendered (contained : rules.machine.Contained)
    (unfinished : delivery.finished = false) {event : Event} {text : String}
    (connected : rules.machine.isConnected delivery.sink.1 = true)
    (accepted : rules.accepts event.message = true) (rendered : rules.render event = .ok text) :
    (delivery.deliver rules.recording (some event)).escaped = none ∧
      (delivery.deliver rules.recording (some event)).delivery.outcome =
        rules.handOver (delivery.outcome.count .received) text := by
  have goes_on : rules.recording.deliver delivery.sink (some event) =
      rules.recording.write delivery.sink text := by
    simp [Rules.deliver, connected, accepted, rendered]
  have escapes_not := contained delivery.sink.1 text
  rw [deliver, goes_on]
  cases written : rules.machine.write delivery.sink.1 text with
  | mk state result journal bumps =>
      rcases result with (fault | fault) | answer
      · simp [Rules.write, Rules.recording, SinkMachine.recording, SinkStep.andThen, Rules.handOver,
          outcome, Outcome.count, written, stop, unfinished]
      · rw [written] at escapes_not
        exact absurd rfl (escapes_not fault)
      · cases answer <;>
          simp [Rules.write, Rules.recording, SinkMachine.recording, SinkStep.andThen,
            Rules.handOver, outcome, Outcome.count, written, Stats.bumpAll]

/-- Delivering a record is working off its frame, and nothing escapes from it. -/
theorem deliver_handles (contained : rules.machine.Contained) (unfinished : delivery.finished = false)
    (frame : List UInt8) :
    (delivery.deliver rules.recording (Event.parse (payload frame)).1).escaped = none ∧
      (delivery.deliver rules.recording (Event.parse (payload frame)).1).delivery.outcome =
        rules.handle delivery.outcome frame := by
  by_cases connected : rules.machine.isConnected delivery.sink.1 = true
  case neg => simp [deliver, Rules.deliver, Rules.handle, outcome, Outcome.count, connected]
  case pos =>
      cases record : (Event.parse (payload frame)).1 with
      | none =>
          simp [deliver, Rules.deliver, Rules.handle, outcome, Outcome.count, connected, record]
      | some event =>
          by_cases accepted : rules.accepts event.message = true
          case neg =>
              simp [deliver, Rules.deliver, Rules.handle, outcome, Outcome.count, connected, record,
                accepted]
          case pos =>
              cases rendered : rules.render event with
              | error fault =>
                  simp [deliver, Rules.deliver, Rules.handle, outcome, Outcome.count, connected,
                    record, accepted, rendered]
              | ok text =>
                  have handled : rules.handle delivery.outcome frame =
                      rules.handOver (delivery.outcome.count .received) text := by
                    have connected_outcome : rules.machine.isConnected delivery.outcome.sink = true :=
                      connected
                    simp [Rules.handle, connected_outcome, record, accepted, rendered]
                  rw [handled]
                  exact deliver_of_rendered contained unfinished connected accepted rendered

/-! ## One piece -/

theorem drain_of_incomplete {delivery : Delivery State} (rules : Rules State)
    (waits : Decoder.front delivery.decoder.buffer = .incomplete) :
    drain rules delivery = ⟨delivery, none, []⟩ := by
  rw [drain]
  split <;> simp_all

theorem drain_eq_of_corrupt {delivery : Delivery State} (rules : Rules State)
    {corruption : Corruption} (in_front : Decoder.front delivery.decoder.buffer = .corrupt corruption) :
    drain rules delivery = ⟨{ delivery with decoder := .empty }, none,
      [⟨.error, .delivery, "Corrupt record stream: " ++ corruption.message⟩]⟩ := by
  rw [drain]
  split <;> simp_all

theorem drain_of_corrupt {delivery : Delivery State} (rules : Rules State) {corruption : Corruption}
    (in_front : Decoder.front delivery.decoder.buffer = .corrupt corruption) :
    (drain rules delivery).escaped = none ∧
      (drain rules delivery).delivery = { delivery with decoder := .empty } := by
  simp [drain_eq_of_corrupt rules in_front]

/-- Draining delivers the record of the frame in front, and goes on unless that ends it. -/
theorem drain_eq_of_frame {delivery : Delivery State} (rules : Rules State)
    {content rest : List UInt8}
    (in_front : Decoder.front delivery.decoder.buffer = .frame content rest) {step : DeliveryStep _}
    (delivered : deliver rules { delivery with decoder := ⟨rest⟩ } (Event.parse content).1 = step) :
    drain rules delivery =
      if step.delivery.finished || step.escaped.isSome then
        { step with journal := (Event.parse content).2 ++ step.journal }
      else
        { drain rules step.delivery with
          journal := (Event.parse content).2 ++ step.journal ++ (drain rules step.delivery).journal } := by
  have decoder : step.delivery.decoder = ⟨rest⟩ := by
    rw [← delivered, decoder_deliver]
  have kept : { step.delivery with decoder := ⟨rest⟩ } = step.delivery := by
    rw [← decoder]
  rw [drain]
  split
  case h_1 shape => rw [shape] at in_front; cases in_front
  case h_2 shape => rw [shape] at in_front; cases in_front
  case h_3 found_content found_rest shape =>
      rw [shape] at in_front
      cases in_front
      simp only [delivered, kept]

theorem drain_of_frame {delivery : Delivery State} (rules : Rules State)
    {content rest : List UInt8}
    (in_front : Decoder.front delivery.decoder.buffer = .frame content rest) {step : DeliveryStep _}
    (delivered : deliver rules { delivery with decoder := ⟨rest⟩ } (Event.parse content).1 = step)
    (harmless : step.escaped = none) :
    (drain rules delivery).escaped =
        (if step.delivery.finished then none else (drain rules step.delivery).escaped) ∧
      (drain rules delivery).delivery =
        (if step.delivery.finished then step.delivery else (drain rules step.delivery).delivery) := by
  rw [drain_eq_of_frame rules in_front delivered]
  simp only [harmless, Option.isSome_none, Bool.or_false]
  split <;> simp

/-- Draining works off the frames in the buffer. Unless the delivery is finished by one of them,
only what is behind them stays. -/
theorem drain_walks (contained : rules.machine.Contained) (whole : List (List UInt8))
    (are_frames : ∀ frame ∈ whole, IsFrame frame) {rest : List UInt8} (lacks : IsPartial rest)
    (unfinished : delivery.finished = false)
    (holds : delivery.decoder.buffer = whole.flatten ++ rest) :
    (delivery.drain rules.recording).escaped = none ∧
      (delivery.drain rules.recording).delivery.outcome = rules.walk delivery.outcome whole ∧
      ((delivery.drain rules.recording).delivery.finished = true ∨
        (delivery.drain rules.recording).delivery.decoder.buffer = rest) := by
  induction whole generalizing delivery with
  | nil =>
      have waits : Decoder.front delivery.decoder.buffer = .incomplete := by
        rw [holds]
        exact front_eq_incomplete_iff.mpr lacks
      rw [drain_of_incomplete rules.recording waits]
      exact ⟨rfl, rfl, Or.inr holds⟩
  | cons frame whole ih =>
      have in_front : Decoder.front delivery.decoder.buffer =
          .frame (payload frame) (whole.flatten ++ rest) := by
        rw [holds, List.flatten_cons, List.append_assoc]
        exact front_append (are_frames frame (by simp)) _
      let advanced : Delivery (State × List String) :=
        { delivery with decoder := ⟨whole.flatten ++ rest⟩ }
      have unfinished_advanced : advanced.finished = false := unfinished
      rcases deliver_handles contained unfinished_advanced frame with ⟨harmless, handled⟩
      rcases drain_of_frame rules.recording in_front rfl harmless with ⟨escaped, drained⟩
      have unfinished_outcome : delivery.outcome.finished = false := unfinished
      rw [escaped, drained, Rules.walk_cons rules unfinished_outcome]
      have outcome_advanced : advanced.outcome = delivery.outcome := rfl
      rw [outcome_advanced] at handled
      split
      · rename_i finished
        have finished_outcome : (rules.handle delivery.outcome frame).finished = true := by
          rw [← handled]
          exact finished
        rw [Rules.walk_of_finished rules finished_outcome]
        exact ⟨rfl, handled, Or.inl finished⟩
      · rename_i goes_on
        rw [Bool.not_eq_true] at goes_on
        rw [← handled]
        refine ih (fun other other_mem => are_frames other (List.mem_cons_of_mem _ other_mem))
          goes_on ?_
        rw [decoder_deliver]

/-! ## All pieces -/

/-- The pieces of a stream arrive one after the other. A failure that escapes keeps the later ones
out. -/
def feedAll (rules : Rules State) (delivery : Delivery State) :
    List (List UInt8) → DeliveryStep State
  | [] => ⟨delivery, none, []⟩
  | piece :: pieces =>
      let step := delivery.feed rules piece
      if step.escaped.isSome then step
      else
        let later := feedAll rules step.delivery pieces
        { later with journal := step.journal ++ later.journal }

theorem feedAll_cons (rules : Rules State) {delivery : Delivery State} {piece : List UInt8}
    (harmless : (delivery.feed rules piece).escaped = none) (pieces : List (List UInt8)) :
    (feedAll rules delivery (piece :: pieces)).escaped =
        (feedAll rules (delivery.feed rules piece).delivery pieces).escaped ∧
      (feedAll rules delivery (piece :: pieces)).delivery =
        (feedAll rules (delivery.feed rules piece).delivery pieces).delivery := by
  simp [feedAll, harmless]

theorem feedAll_of_finished (rules : Rules State) {delivery : Delivery State}
    (finished : delivery.finished = true) (pieces : List (List UInt8)) :
    (feedAll rules delivery pieces).escaped = none ∧
      (feedAll rules delivery pieces).delivery = delivery := by
  have idle : ∀ piece, delivery.feed rules piece = ⟨delivery, none, []⟩ := by
    intro piece
    rw [feed, if_pos finished]
  induction pieces with
  | nil => exact ⟨rfl, rfl⟩
  | cons piece pieces ih =>
      have harmless : (delivery.feed rules piece).escaped = none := by rw [idle]
      rcases feedAll_cons rules harmless pieces with ⟨escaped, delivered⟩
      rw [escaped, delivered, idle]
      exact ih

/-- What waits for the rest of its frame is worked off with the pieces that arrive after it. -/
theorem feedAll_walks (contained : rules.machine.Contained) (pieces : List (List UInt8))
    (unfinished : delivery.finished = false) (waits : IsPartial delivery.decoder.buffer)
    (readable : ¬IsCorrupt (remainder (delivery.decoder.buffer ++ pieces.flatten))) :
    (feedAll rules.recording delivery pieces).escaped = none ∧
      (feedAll rules.recording delivery pieces).delivery.outcome =
        rules.walk delivery.outcome (frames (delivery.decoder.buffer ++ pieces.flatten)) := by
  induction pieces generalizing delivery with
  | nil =>
      rw [List.flatten_nil, List.append_nil, frames_eq_nil_of_isPartial waits]
      exact ⟨rfl, rfl⟩
  | cons piece pieces ih =>
      let fed : Delivery (State × List String) :=
        { delivery with decoder := delivery.decoder.feed piece }
      have fed_drains : delivery.feed rules.recording piece = fed.drain rules.recording := by
        rw [feed, if_neg (by simp [unfinished])]
      rcases exists_frames fed.decoder.buffer with ⟨rest, cut, are_frames, stops⟩
      -- The frames of the whole are those up to this piece, then those that begin in what it leaves.
      have arrives : delivery.decoder.buffer ++ (piece :: pieces).flatten =
          (frames fed.decoder.buffer).flatten ++ (rest ++ pieces.flatten) := by
        rw [← List.append_assoc, ← cut, List.flatten_cons, ← List.append_assoc]
        rfl
      have all_frames := frames_flatten_append are_frames (rest ++ pieces.flatten)
      rw [← arrives] at all_frames
      have readable_rest : ¬IsCorrupt (remainder (rest ++ pieces.flatten)) := by
        rwa [arrives, remainder_flatten_append are_frames] at readable
      have lacks : IsPartial rest := isPartial_of_readable stops readable_rest
      rcases @drain_walks State rules fed contained _ are_frames rest lacks unfinished cut with
        ⟨harmless, walked, leaves⟩
      rw [← fed_drains] at harmless walked leaves
      have outcome_fed : fed.outcome = delivery.outcome := rfl
      rw [outcome_fed] at walked
      rcases feedAll_cons rules.recording harmless pieces with ⟨escaped, delivered⟩
      rw [escaped, delivered, all_frames, Rules.walk_append, ← walked]
      by_cases finished : (delivery.feed rules.recording piece).delivery.finished = true
      · rcases feedAll_of_finished rules.recording finished pieces with ⟨escaped, delivered⟩
        rw [escaped, delivered]
        refine ⟨rfl, ?_⟩
        have finished_outcome :
            (delivery.feed rules.recording piece).delivery.outcome.finished = true := finished
        rw [Rules.walk_of_finished rules finished_outcome]
      · have buffer : (delivery.feed rules.recording piece).delivery.decoder.buffer = rest := by
          rcases leaves with finished' | buffer
          · exact absurd finished' finished
          · exact buffer
        rw [Bool.not_eq_true] at finished
        rw [← buffer] at lacks readable_rest ⊢
        exact ih finished lacks readable_rest

/-- Delivery is the same from every cutting of a stream, and it is the reference: whatever the
filter, the renderer and the sink do, the sink gets the same texts and ends in the same state, the
same is counted, and the delivery is finished by the same failure or not at all. -/
theorem feedAll_eq_walk (rules : Rules State) (contained : rules.machine.Contained) (sink : State)
    (stats : Stats) (stream : List UInt8) (readable : ¬IsCorrupt (remainder stream))
    (pieces : List (List UInt8)) (cut : pieces.flatten = stream) :
    let started : Delivery (State × List String) := { start (sink, []) with stats := stats }
    (feedAll rules.recording started pieces).escaped = none ∧
      (started.feed rules.recording stream).escaped = none ∧
      (feedAll rules.recording started pieces).delivery.outcome =
        (started.feed rules.recording stream).delivery.outcome ∧
      (feedAll rules.recording started pieces).delivery.outcome =
        rules.walk ⟨sink, [], stats, false, none⟩ (frames stream) := by
  intro started
  have waits : IsPartial started.decoder.buffer := by
    intro length declares
    cases declares
  have nothing_before : ∀ arriving, started.decoder.buffer ++ arriving = arriving := fun _ => rfl
  have by_pieces := feedAll_walks contained pieces rfl waits
  have at_once := feedAll_walks contained [stream] rfl waits
  rw [nothing_before, cut] at by_pieces
  rw [nothing_before, List.flatten_singleton] at at_once
  rcases by_pieces readable with ⟨escaped, walked⟩
  rcases at_once readable with ⟨escaped_once, walked_once⟩
  have one_piece : (feedAll rules.recording started [stream]).escaped =
        (started.feed rules.recording stream).escaped ∧
      (feedAll rules.recording started [stream]).delivery =
        (started.feed rules.recording stream).delivery := by
    cases fails : (started.feed rules.recording stream).escaped <;> simp [feedAll, fails]
  rw [one_piece.1] at escaped_once
  rw [one_piece.2] at walked_once
  exact ⟨escaped, escaped_once, walked.trans walked_once.symm, walked⟩

/-- A sink that cannot be opened any more once it has taken a text. -/
def takesOne : SinkMachine Bool where
  isConnected _ := true
  write taken _ :=
    if taken then .failed taken (.unopened ⟨13, "Permission denied"⟩) else .done true true

/-- Everything is accepted, and rendered as its message. -/
def plainRules : Rules Bool := ⟨fun _ => true, fun event => .ok event.message, takesOne, false⟩

/-- Messages are accepted but for one, and rendered with the time as the internet standard has it. -/
def stampedRules : Rules Bool :=
  ⟨(· ≠ "quiet"), fun event => (Stamp.internet event).map (event.message ++ " " ++ ·), takesOne, false⟩

/-- A malformed record, one that the sink takes, one that is left out, one whose time has no text, one
for which the sink cannot be opened, and one more. -/
def mixedRecords : List (List UInt8) :=
  [0, 0, 0, 5, 7] ::
    ([⟨"kept", 1, 14, 1, 0⟩, ⟨"quiet", 2, 14, 1, 0⟩, ⟨"late", 3, 14, 1, 253402300800000⟩,
      ⟨"refused", 4, 14, 1, 1⟩, ⟨"left", 5, 14, 1, 2⟩] : List Event).flatMap fun event =>
        event.encode.toOption.toList

/-- These records, and the first half of a header. -/
def mixedStream : List UInt8 := mixedRecords.flatten ++ [0, 0]

theorem feedAll_eq_walk_cutHeader :
    stampedRules.machine.Contained ∧ ¬IsCorrupt (remainder mixedStream) ∧
      let step := feedAll stampedRules.recording (start (false, []))
        [mixedStream.take 7, (mixedStream.drop 7).take 300, mixedStream.drop 307]
      step.escaped = none ∧
        step.delivery.outcome =
          stampedRules.walk ⟨false, [], .fresh, false, none⟩ (frames mixedStream) ∧
        step.delivery.sink.2 =
          ["kept 1970-01-01T00:00:00.000Z", "refused 1970-01-01T00:00:00.001Z"] ∧
        step.delivery.stats.totals = ⟨5, 1, 1, 2, 0, 0, 0⟩ ∧
        step.delivery.failure = some (.unopened ⟨13, "Permission denied"⟩) := by
  have contained : stampedRules.machine.Contained := by
    intro taken text fault
    cases taken <;> simp [stampedRules, takesOne, SinkStep.failed, SinkStep.done]
  have readable : ¬IsCorrupt (remainder mixedStream) := by
    have are_frames : ∀ frame ∈ mixedRecords, IsFrame frame := by
      simp only [IsFrame]
      decide +kernel
    have lacks : IsPartial [0, 0] := by
      intro length declares
      cases declares
    have left_over : remainder [0, 0] = [0, 0] := by
      rw [remainder, frames_eq_nil_of_isPartial lacks]
      rfl
    rw [mixedStream, remainder_flatten_append are_frames, left_over]
    rintro ⟨length, declares, -⟩
    cases declares
  rcases feedAll_eq_walk stampedRules contained false .fresh mixedStream readable
    [mixedStream.take 7, (mixedStream.drop 7).take 300, mixedStream.drop 307] (by decide +kernel) with
    ⟨harmless, -, -, walked⟩
  exact ⟨contained, readable, harmless, walked, by decide +kernel, by decide +kernel,
    by decide +kernel⟩

end Delivery

end LogRelay
