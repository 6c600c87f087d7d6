import LogRelay.Proofs.Delivery.Balance

/-!
# The records of a piece

Feeding a piece is delivering the records of the frames that are complete by then, one after the
other, until one ends early (`Delivery.feed_follows`). So what holds of every single record, and
lasts, holds of every piece: it is enough to look at `Rules.deliver`.
-/

namespace LogRelay

/-- The records in the frames of a byte sequence, none for a malformed one. -/
def Stream.records (bytes : List UInt8) : List (Option Event) :=
  (frames bytes).map fun frame => (Event.parse (payload frame)).1

namespace SinkStep

variable {State Result : Type}

/-- The failure that escapes from a step. -/
def escaped? (step : SinkStep State Result) : Option SystemFault :=
  match step.result with
  | .error (.escaped fault) => some fault
  | _ => none

/-- What keeps the sink from being opened. -/
def unopened? (step : SinkStep State Result) : Option OpenFault :=
  match step.result with
  | .error (.unopened fault) => some fault
  | _ => none

end SinkStep

namespace Rules

variable {State : Type}

variable {rules : Rules State}

/-- A record comes to a text for the sink. -/
def Speaks (rules : Rules State) (sink : State) (record : Option Event) : Prop :=
  rules.machine.isConnected sink = true ∧ ∃ event text, record = some event ∧
    rules.accepts event.message = true ∧ rules.render event = .ok text

theorem deliver_of_speaks {sink : State} {event : Event} {text : String}
    (connected : rules.machine.isConnected sink = true)
    (accepted : rules.accepts event.message = true) (rendered : rules.render event = .ok text) :
    rules.deliver sink (some event) = rules.write sink text := by
  simp [deliver, connected, accepted, rendered]

/-- A record that comes to no text leaves the sink alone. -/
theorem deliver_of_silent {sink : State} {record : Option Event}
    (silent : ¬rules.Speaks sink record) :
    (rules.deliver sink record).state = sink ∧ (rules.deliver sink record).result = .ok () := by
  simp only [deliver]
  split
  · rename_i connected
    split
    · exact ⟨rfl, rfl⟩
    · rename_i event
      split
      · rename_i accepted
        split
        · rename_i text rendered
          exact absurd ⟨connected, event, text, rfl, accepted, rendered⟩ silent
        · exact ⟨rfl, rfl⟩
      · exact ⟨rfl, rfl⟩
  · exact ⟨rfl, rfl⟩

/-- Takes records to the sink, until one ends early. -/
def deliverAll (rules : Rules State) (sink : State) : List (Option Event) → SinkStep State Unit
  | [] => .done sink ()
  | record :: records =>
      (rules.deliver sink record).andThen fun sink _ => deliverAll rules sink records

theorem deliverAll_of_ok {sink : State} {record : Option Event}
    (ends_well : (rules.deliver sink record).result = .ok ()) (records : List (Option Event)) :
    (rules.deliverAll sink (record :: records)).state =
        (rules.deliverAll (rules.deliver sink record).state records).state ∧
      (rules.deliverAll sink (record :: records)).result =
        (rules.deliverAll (rules.deliver sink record).state records).result := by
  rw [deliverAll, SinkStep.andThen_of_ok ends_well]
  exact ⟨rfl, rfl⟩

theorem deliverAll_of_error {sink : State} {record : Option Event}
    {fault : SinkFault} (ends_early : (rules.deliver sink record).result = .error fault)
    (records : List (Option Event)) :
    (rules.deliverAll sink (record :: records)).state = (rules.deliver sink record).state ∧
      (rules.deliverAll sink (record :: records)).result = .error fault := by
  rw [deliverAll, SinkStep.andThen_of_error ends_early]
  exact ⟨rfl, rfl⟩

theorem deliverAll_append (rules : Rules State) (sink : State)
    (earlier later : List (Option Event)) :
    rules.deliverAll sink (earlier ++ later) =
      (rules.deliverAll sink earlier).andThen fun sink _ => rules.deliverAll sink later := by
  induction earlier generalizing sink with
  | nil => rfl
  | cons record records ih =>
      rw [List.cons_append, deliverAll, deliverAll, SinkStep.andThen_assoc]
      simp only [ih]

end Rules

open LogRelay.Stream

namespace Delivery

variable {State : Type} {rules : Rules State} {delivery : Delivery State}

/-- The delivery follows its sink, which has taken a step. -/
structure Follows (delivery : Delivery State) (taken : SinkStep State Unit)
    (step : DeliveryStep State) : Prop where
  sink : step.delivery.sink = taken.state
  escaped : step.escaped = taken.escaped?
  /-- Only a sink that cannot be opened finishes the delivery. -/
  finished : step.delivery.finished = taken.unopened?.isSome
  failure : step.delivery.failure = match taken.unopened? with
    | some fault => some (.unopened fault)
    | none => delivery.failure

theorem Follows.congr {taken other : SinkStep State Unit} {step same_step : DeliveryStep State}
    (follows : Follows delivery taken step) (state : other.state = taken.state)
    (result : other.result = taken.result) (escaped : same_step.escaped = step.escaped)
    (delivered : same_step.delivery = step.delivery) : Follows delivery other same_step := by
  rcases follows with ⟨sink_eq, escaped_eq, finished_eq, failure_eq⟩
  have same_escape : other.escaped? = taken.escaped? := by
    rw [SinkStep.escaped?, SinkStep.escaped?, result]
  have same_opening : other.unopened? = taken.unopened? := by
    rw [SinkStep.unopened?, SinkStep.unopened?, result]
  refine ⟨?_, ?_, ?_, ?_⟩
  · rw [delivered, state, sink_eq]
  · rw [escaped, same_escape, escaped_eq]
  · rw [delivered, same_opening, finished_eq]
  · rw [delivered, same_opening, failure_eq]

theorem follows_done {step : DeliveryStep State} (unfinished : delivery.finished = false)
    (sink : step.delivery.sink = delivery.sink) (escaped : step.escaped = none)
    (finished : step.delivery.finished = delivery.finished)
    (failure : step.delivery.failure = delivery.failure) :
    Follows delivery (.done delivery.sink ()) step :=
  ⟨sink, escaped, finished.trans unfinished, failure⟩

theorem deliver_follows (rules : Rules State) (unfinished : delivery.finished = false)
    (record : Option Event) :
    Follows delivery (rules.deliver delivery.sink record) (delivery.deliver rules record) := by
  cases taken : rules.deliver delivery.sink record with
  | mk state result journal bumps =>
      rcases result with (fault | fault) | done
      · simp only [deliver, taken, stop, unfinished]
        exact ⟨rfl, rfl, rfl, rfl⟩
      · simp only [deliver, taken]
        exact ⟨rfl, rfl, unfinished, rfl⟩
      · simp only [deliver, taken]
        exact ⟨rfl, rfl, unfinished, rfl⟩

/-- A failure that escapes breaks the draining off. -/
theorem drain_of_escape {content rest : List UInt8}
    (in_front : Decoder.front delivery.decoder.buffer = .frame content rest)
    {step : DeliveryStep State}
    (delivered : deliver rules { delivery with decoder := ⟨rest⟩ } (Event.parse content).1 = step)
    (escapes : step.escaped.isSome) :
    (drain rules delivery).escaped = step.escaped ∧
      (drain rules delivery).delivery = step.delivery := by
  rw [drain_eq_of_frame rules in_front delivered, if_pos (by simp [escapes])]
  exact ⟨rfl, rfl⟩

/-- A record that ends early is the last one. -/
theorem drain_of_error {content rest : List UInt8}
    (in_front : Decoder.front delivery.decoder.buffer = .frame content rest)
    {step : DeliveryStep State}
    (delivered : deliver rules { delivery with decoder := ⟨rest⟩ } (Event.parse content).1 = step)
    {taken : SinkStep State Unit} (follows : Follows { delivery with decoder := ⟨rest⟩ } taken step)
    {fault : SinkFault} (ends_early : taken.result = .error fault) :
    (drain rules delivery).escaped = step.escaped ∧
      (drain rules delivery).delivery = step.delivery := by
  cases fault with
  | escaped fault =>
      apply drain_of_escape in_front delivered
      rw [follows.escaped, SinkStep.escaped?, ends_early]
      rfl
  | unopened fault =>
      have harmless : step.escaped = none := by
        rw [follows.escaped, SinkStep.escaped?, ends_early]
      have finished : step.delivery.finished = true := by
        rw [follows.finished, SinkStep.unopened?, ends_early]
        rfl
      have drained := drain_of_frame rules in_front delivered harmless
      rw [if_pos finished, if_pos finished] at drained
      rw [harmless]
      exact drained

/-- Draining delivers the records of the frames in the buffer. -/
theorem drain_follows (rules : Rules State) (unfinished : delivery.finished = false) :
    Follows delivery (rules.deliverAll delivery.sink (records delivery.decoder.buffer))
      (delivery.drain rules) := by
  -- What follows a record is draining again, from a shorter buffer.
  induction measured : delivery.decoder.buffer.length using Nat.strongRecOn
    generalizing delivery with
  | ind size ih =>
      cases in_front : Decoder.front delivery.decoder.buffer with
      | incomplete =>
          have no_records : records delivery.decoder.buffer = [] := by
            rw [records, frames_eq_nil_of_isPartial (front_eq_incomplete_iff.mp in_front)]
            rfl
          rw [no_records, drain_of_incomplete rules in_front]
          exact follows_done unfinished rfl rfl rfl rfl
      | corrupt corruption =>
          rcases front_eq_corrupt_iff.mp in_front with ⟨declares, too_small, -⟩
          have no_records : records delivery.decoder.buffer = [] := by
            rw [records, frames_eq_nil_of_isCorrupt ⟨_, declares, too_small⟩]
            rfl
          rcases drain_of_corrupt rules in_front with ⟨harmless, discarded⟩
          rw [no_records]
          apply follows_done unfinished _ harmless <;> rw [discarded]
      | frame content rest =>
          rcases exists_frame_of_front_eq in_front with ⟨frame, whole, buffer_eq, rfl⟩
          have records_eq : records delivery.decoder.buffer =
              (Event.parse (payload frame)).1 :: records rest := by
            rw [records, buffer_eq, frames_append whole]
            rfl
          rw [records_eq]
          have unfinished_advanced : ({ delivery with decoder := ⟨rest⟩ } : Delivery State).finished =
              false := unfinished
          have first := deliver_follows rules unfinished_advanced
            (Event.parse (payload frame)).1
          have decoder : (deliver rules { delivery with decoder := ⟨rest⟩ }
              (Event.parse (payload frame)).1).delivery.decoder = ⟨rest⟩ := decoder_deliver rules _
          generalize delivered :
            deliver rules { delivery with decoder := ⟨rest⟩ } (Event.parse (payload frame)).1 = step
            at first decoder
          cases result : (rules.deliver delivery.sink (Event.parse (payload frame)).1).result with
          | error fault =>
              rcases Rules.deliverAll_of_error result (records rest) with ⟨state_eq, result_eq⟩
              rcases drain_of_error in_front delivered first result with ⟨escaped, drained⟩
              have ended := first.congr state_eq (result_eq.trans result.symm) escaped drained
              exact ⟨ended.sink, ended.escaped, ended.finished, ended.failure⟩
          | ok done =>
              have harmless : step.escaped = none := by
                rw [first.escaped, SinkStep.escaped?, result]
              have goes_on : step.delivery.finished = false := by
                rw [first.finished, SinkStep.unopened?, result]
                rfl
              have same_failure : step.delivery.failure = delivery.failure := by
                rw [first.failure, SinkStep.unopened?, result]
              have shorter : step.delivery.decoder.buffer.length < size := by
                rw [decoder, ← measured]
                exact Decoder.length_rest_lt in_front
              have later := ih _ shorter goes_on rfl
              rw [decoder, first.sink] at later
              rcases drain_of_frame rules in_front delivered harmless with ⟨escaped, drained⟩
              rw [if_neg (by simp [goes_on])] at escaped drained
              rcases Rules.deliverAll_of_ok result (records rest) with ⟨state_eq, result_eq⟩
              have whole_run : Follows delivery _ (drain rules step.delivery) :=
                ⟨later.sink, later.escaped, later.finished, by rw [later.failure, same_failure]⟩
              exact whole_run.congr state_eq result_eq escaped drained

/-- A piece that is fed delivers the records of the frames that are complete by then. -/
theorem feed_follows (rules : Rules State) (unfinished : delivery.finished = false)
    (chunk : List UInt8) :
    Follows delivery
      (rules.deliverAll delivery.sink (records (delivery.decoder.buffer ++ chunk)))
      (delivery.feed rules chunk) := by
  have fed : delivery.feed rules chunk =
      drain rules { delivery with decoder := delivery.decoder.feed chunk } := by
    rw [feed, if_neg (by simp [unfinished])]
  have unfinished_fed : ({ delivery with decoder := delivery.decoder.feed chunk } :
      Delivery State).finished = false := unfinished
  have drained := drain_follows rules unfinished_fed
  rw [fed]
  exact ⟨drained.sink, drained.escaped, drained.finished, drained.failure⟩

/-! ## One text of a piece -/

/-- A piece that is fed brings a text to a sink, behind what comes of the records before it. -/
inductive Brings (rules : Rules State) (delivery : Delivery State) (chunk : List UInt8)
    (sink : State) (text : String) : Prop where
  | intro {earlier later : List (Option Event)} {event : Event}
      (arrive : records (delivery.decoder.buffer ++ chunk) = earlier ++ some event :: later)
      (ends_well : (rules.deliverAll delivery.sink earlier).result = .ok ())
      (reaches : (rules.deliverAll delivery.sink earlier).state = sink)
      (accepted : rules.accepts event.message = true) (rendered : rules.render event = .ok text)

/-- A text for which the sink cannot be opened is the last one of its piece, and finishes the
delivery. -/
theorem feed_of_brings (unfinished : delivery.finished = false) {chunk : List UInt8} {sink : State}
    {text : String} (brings : Brings rules delivery chunk sink text)
    (connected : rules.machine.isConnected sink = true) {fault : OpenFault}
    (fails : (rules.machine.write sink text).result = .error (.unopened fault)) :
    (delivery.feed rules chunk).escaped = none ∧
      (delivery.feed rules chunk).delivery.finished = true ∧
      (delivery.feed rules chunk).delivery.failure = some (.unopened fault) ∧
      (delivery.feed rules chunk).delivery.sink = (rules.machine.write sink text).state := by
  rcases brings with ⟨arrive, ends_well, reaches, accepted, rendered⟩
  have ends_early : rules.deliver sink (some _) = _ :=
    Rules.deliver_of_speaks connected accepted rendered
  rw [Rules.write, SinkStep.andThen_of_error fails] at ends_early
  have follows := feed_follows rules unfinished chunk
  rw [arrive, Rules.deliverAll_append, SinkStep.andThen_of_ok ends_well, reaches] at follows
  rcases Rules.deliverAll_of_error (congrArg SinkStep.result ends_early) _ with ⟨state, result⟩
  refine ⟨?_, ?_, ?_, ?_⟩
  · rw [follows.escaped, SinkStep.escaped?, result]
  · rw [follows.finished, SinkStep.unopened?, result]
    rfl
  · rw [follows.failure, SinkStep.unopened?, result]
  · rw [follows.sink, state, ends_early]

end Delivery

end LogRelay
