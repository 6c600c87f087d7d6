import LogRelay.Proofs.Delivery.Chunks
import LogRelay.Proofs.Record.Grammar
import LogRelay.Proofs.Sink.Counts

/-!
# The balance of a delivery

Every record that is taken from the stream is accounted for once: as delivered, filtered, dropped or
failed, or as the one record whose writing found that the sink cannot be opened.

A run is a list of calls. The sink may change as it likes before every record, also within one call,
so what a call does is a relation (`Serves`), in which each record finds the sink in any state at all.
The machine of the sink is any, too, and so may answer one thing when it is asked whether it is
connected and another when it is given the text. The runs of the delivery itself, in which the sink
changes only by writing, are among these (`play_runs`).

However a record leaves the delivery, it is settled once (`Rules.deliver_settles`), and this keeps the
balance (`Balanced.settle`). The rest is induction over the records of a call (`Drains.balanced`) and
over the calls of a run (`Runs.balanced`).
-/

namespace LogRelay

/-! ## What a record leaves in the counts -/

namespace Stats

theorem get_totals_bumpAll (stats : Stats) (counters : List Counter) (counter : Counter) :
    (stats.bumpAll counters).totals.get counter =
      stats.totals.get counter + counters.count counter := by
  induction counters generalizing stats with
  | nil => simp
  | cons bumped counters ih =>
      rw [bumpAll_cons, ih, get_totals_bump, List.count_cons]
      simp only [beq_iff_eq]
      omega

end Stats

namespace Rules

variable {State : Type}

/-- A record that has been worked off is counted once more, unless the sink broke down over it, and
the sink has been given a text just if its answer is counted or it broke down. -/
structure Settles (before : List String) (step : SinkStep (State × List String) Unit) : Prop where
  unreceived : step.bumps.count .received = 0
  settled : step.bumps.count .delivered + step.bumps.count .filtered +
    step.bumps.count .dropped + step.bumps.count .failed + (!step.result.isOk).toNat = 1
  written : before.length + step.bumps.count .delivered + step.bumps.count .failed +
    (!step.result.isOk).toNat = step.state.2.length

theorem settles_unwritten {counter : Counter} (counted : counter = .filtered ∨ counter = .dropped)
    (sink : State × List String) (journal : Journal) :
    Settles sink.2 ⟨sink, .ok (), journal, [counter]⟩ := by
  rcases counted with rfl | rfl <;> exact ⟨rfl, rfl, rfl⟩

theorem write_settles {rules : Rules State} (discreet : rules.machine.IsDiscreet)
    (sink : State × List String) (text : String) :
    Settles sink.2 (rules.recording.write sink text) := by
  have counts := (discreet sink.1 text).counts
  cases written : rules.machine.write sink.1 text with
  | mk state result journal bumps =>
      rw [written] at counts
      rcases counts with ⟨received, delivered, filtered, dropped, failed⟩
      simp only at received delivered filtered dropped failed
      rcases result with fault | _ | _ <;>
        constructor <;>
        simp [Rules.write, Rules.recording, SinkMachine.recording, SinkStep.andThen, Except.isOk,
          Except.toBool, *]

theorem deliver_settles {rules : Rules State} (discreet : rules.machine.IsDiscreet)
    (sink : State × List String) (record : Option Event) :
    Settles sink.2 (rules.recording.deliver sink record) := by
  simp only [Rules.deliver]
  split
  · split
    · exact settles_unwritten (Or.inr rfl) sink _
    · split
      · split
        · exact write_settles discreet sink _
        · exact settles_unwritten (Or.inr rfl) sink _
      · exact settles_unwritten (Or.inl rfl) sink _
  · exact settles_unwritten (Or.inr rfl) sink _

end Rules

/-! ## Runs -/

namespace Delivery

variable {State : Type}

/-- What the owner of a delivery may do with it. -/
inductive Call where
  | feed (chunk : List UInt8)
  | stop (failure : Option Failure)
  | endStream

/-- What a call comes to. -/
def perform (rules : Rules State) (delivery : Delivery State) : Call → DeliveryStep State
  | .feed chunk => delivery.feed rules chunk
  | .stop failure => ⟨delivery.stop failure, none, []⟩
  | .endStream => ⟨(delivery.endStream rules).1, none, (delivery.endStream rules).2⟩

/-- Calls one after the other. A failure that escapes keeps the later ones out. -/
def play (rules : Rules State) (delivery : Delivery State) : List Call → DeliveryStep State
  | [] => ⟨delivery, none, []⟩
  | call :: calls =>
      let step := delivery.perform rules call
      if step.escaped.isSome then step
      else
        let later := play rules step.delivery calls
        { later with journal := step.journal ++ later.journal }

/-- The delivery when a frame has been taken from its buffer and before the record in it is worked
off. By then the sink may be in any state. -/
def facing (delivery : Delivery (State × List String)) (sink : State) (rest : List UInt8) :
    Delivery (State × List String) :=
  { delivery with sink := (sink, delivery.sink.2), decoder := ⟨rest⟩ }

/-- A delivery works off its buffer, and the sink may change before every record. With the delivery
after it, this gives the contents of the frames that are taken, and whether the last one found that
the sink cannot be opened. -/
inductive Drains (rules : Rules State) :
    Delivery (State × List String) → List (List UInt8) → Bool →
      Delivery (State × List String) → Prop where
  | incomplete {delivery : Delivery (State × List String)}
      (waits : Decoder.front delivery.decoder.buffer = .incomplete) :
      Drains rules delivery [] false delivery
  | corrupt {delivery : Delivery (State × List String)} {corruption : Corruption}
      (in_front : Decoder.front delivery.decoder.buffer = .corrupt corruption) :
      Drains rules delivery [] false { delivery with decoder := .empty }
  | unopened {delivery : Delivery (State × List String)} {content rest : List UInt8}
      (in_front : Decoder.front delivery.decoder.buffer = .frame content rest) (sink : State)
      {fault : OpenFault}
      (breaks : (rules.recording.deliver (sink, delivery.sink.2) (Event.parse content).1).result =
        .error (.unopened fault)) :
      Drains rules delivery [content] true
        ((delivery.facing sink rest).deliver rules.recording (Event.parse content).1).delivery
  | next {delivery after : Delivery (State × List String)} {content rest : List UInt8}
      {taken : List (List UInt8)} {unopened : Bool}
      (in_front : Decoder.front delivery.decoder.buffer = .frame content rest) (sink : State)
      (ends_well : (rules.recording.deliver (sink, delivery.sink.2)
        (Event.parse content).1).result = .ok ())
      (drains : Drains rules
        ((delivery.facing sink rest).deliver rules.recording (Event.parse content).1).delivery
        taken unopened after) :
      Drains rules delivery (content :: taken) unopened after

/-- A delivery serves a call, and the sink may change before every record. -/
inductive Serves (rules : Rules State) :
    Delivery (State × List String) → Call → List (List UInt8) → Bool →
      Delivery (State × List String) → Prop where
  | feed {delivery after : Delivery (State × List String)} {chunk : List UInt8}
      {taken : List (List UInt8)} {unopened : Bool} (unfinished : delivery.finished = false)
      (drains : Drains rules { delivery with decoder := delivery.decoder.feed chunk }
        taken unopened after) :
      Serves rules delivery (.feed chunk) taken unopened after
  | feed_finished {delivery : Delivery (State × List String)} {chunk : List UInt8}
      (finished : delivery.finished = true) :
      Serves rules delivery (.feed chunk) [] false delivery
  | stop {delivery : Delivery (State × List String)} {failure : Option Failure} :
      Serves rules delivery (.stop failure) [] false (delivery.stop failure)
  | endStream {delivery : Delivery (State × List String)} :
      Serves rules delivery .endStream [] false (delivery.endStream rules.recording).1

/-- The runs of a delivery: the calls, the contents of all frames taken, and whether a call has found
that the sink cannot be opened. -/
inductive Runs (rules : Rules State) (sink : State) :
    List Call → List (List UInt8) → Bool → Delivery (State × List String) → Prop where
  | start : Runs rules sink [] [] false (start (sink, []))
  | call {calls : List Call} {call : Call} {taken taken_now : List (List UInt8)}
      {unopened unopened_now : Bool} {delivery after : Delivery (State × List String)}
      (runs : Runs rules sink calls taken unopened delivery)
      (serves : Serves rules delivery call taken_now unopened_now after) :
      Runs rules sink (calls ++ [call]) (taken ++ taken_now) (unopened || unopened_now) after

/-- What has been received is accounted for, given the contents of all frames taken, and whether one
of the records found that the sink cannot be opened. -/
structure Balanced (taken : List (List UInt8)) (unopened : Bool)
    (delivery : Delivery (State × List String)) : Prop where
  settled : delivery.stats.totals.get .received =
    delivery.stats.totals.get .delivered + delivery.stats.totals.get .filtered +
      delivery.stats.totals.get .dropped + delivery.stats.totals.get .failed + unopened.toNat
  written : delivery.stats.totals.get .delivered + delivery.stats.totals.get .failed +
    unopened.toNat = delivery.sink.2.length
  received : delivery.stats.totals.get .received = taken.length

/-! ## The balance of one record -/

variable {rules : Rules State} {delivery : Delivery (State × List String)}

/-- The delivery when a record has been worked off, before it is seen whether it goes on. -/
def settle (delivery : Delivery (State × List String))
    (step : SinkStep (State × List String) Unit) : Delivery (State × List String) :=
  { delivery with sink := step.state, stats := (delivery.stats.bump .received).bumpAll step.bumps }

@[simp]
theorem sink_settle (delivery : Delivery (State × List String))
    (step : SinkStep (State × List String) Unit) : (delivery.settle step).sink = step.state := rfl

theorem get_totals_settle (delivery : Delivery (State × List String))
    (step : SinkStep (State × List String) Unit) (counter : Counter) :
    (delivery.settle step).stats.totals.get counter = delivery.stats.totals.get counter +
      (if .received = counter then 1 else 0) + step.bumps.count counter := by
  rw [settle, Stats.get_totals_bumpAll, Stats.get_totals_bump]

theorem deliver_of_ok (delivery : Delivery (State × List String))
    {rules : Rules (State × List String)} {record : Option Event}
    (ends_well : (rules.deliver delivery.sink record).result = .ok ()) :
    (delivery.deliver rules record).escaped = none ∧
      (delivery.deliver rules record).delivery =
        delivery.settle (rules.deliver delivery.sink record) := by
  simp [deliver, settle, ends_well]

theorem deliver_of_unopened (delivery : Delivery (State × List String))
    {rules : Rules (State × List String)} {record : Option Event} {fault : OpenFault}
    (breaks : (rules.deliver delivery.sink record).result = .error (.unopened fault)) :
    (delivery.deliver rules record).escaped = none ∧
      (delivery.deliver rules record).delivery =
        (delivery.settle (rules.deliver delivery.sink record)).stop (some (.unopened fault)) := by
  simp [deliver, settle, breaks]

theorem finished_stop (delivery : Delivery State) (failure : Option Failure) :
    (delivery.stop failure).finished = true := by
  rw [stop]
  split
  · assumption
  · rfl

namespace Balanced

variable {taken : List (List UInt8)} {unopened : Bool}

/-- Finishing a delivery changes none of its counts. -/
theorem stop (balanced : Balanced taken unopened delivery) (failure : Option Failure) :
    Balanced taken unopened (delivery.stop failure) := by
  rw [Delivery.stop]
  split
  · exact balanced
  · exact ⟨balanced.settled, balanced.written, balanced.received⟩

/-- Working off a record keeps the balance. -/
theorem settle (balanced : Balanced taken false delivery) (content : List UInt8)
    {step : SinkStep (State × List String) Unit} (settles : Rules.Settles delivery.sink.2 step) :
    Balanced (taken ++ [content]) (!step.result.isOk) (delivery.settle step) := by
  rcases balanced with ⟨settled, written, received⟩
  rcases settles with ⟨unreceived, settled_now, written_now⟩
  rw [Bool.toNat_false] at settled written
  constructor
  · simp only [get_totals_settle, reduceCtorEq, ↓reduceIte]
    omega
  · rw [get_totals_settle, get_totals_settle, sink_settle]
    simp only [reduceCtorEq, ↓reduceIte]
    omega
  · simp only [get_totals_settle, ↓reduceIte, List.length_append, List.length_singleton]
    omega

/-- Taking a frame and working off its record keeps the balance, whatever the sink has become. -/
theorem settle_facing (balanced : Balanced taken false delivery)
    (discreet : rules.machine.IsDiscreet) (sink : State) (content rest : List UInt8) :
    Balanced (taken ++ [content])
      (!(rules.recording.deliver (sink, delivery.sink.2) (Event.parse content).1).result.isOk)
      ((delivery.facing sink rest).settle
        (rules.recording.deliver (sink, delivery.sink.2) (Event.parse content).1)) := by
  have balanced_facing : Balanced taken false (delivery.facing sink rest) :=
    ⟨balanced.settled, balanced.written, balanced.received⟩
  exact balanced_facing.settle content
    (Rules.deliver_settles discreet (sink, delivery.sink.2) (Event.parse content).1)

end Balanced

/-! ## The balance of a run -/

theorem Drains.balanced (discreet : rules.machine.IsDiscreet)
    {after : Delivery (State × List String)} {taken taken_now : List (List UInt8)}
    {unopened : Bool} (drains : Drains rules delivery taken_now unopened after)
    (balanced : Balanced taken false delivery) :
    Balanced (taken ++ taken_now) unopened after ∧ (unopened = true → after.finished = true) := by
  induction drains generalizing taken with
  | incomplete waits =>
      rw [List.append_nil]
      exact ⟨balanced, by simp⟩
  | corrupt in_front =>
      rw [List.append_nil]
      exact ⟨⟨balanced.settled, balanced.written, balanced.received⟩, by simp⟩
  | @unopened delivery content rest in_front sink fault breaks =>
      have settled := balanced.settle_facing discreet sink content rest
      rw [breaks] at settled
      have delivered := (deliver_of_unopened (delivery.facing sink rest) breaks).2
      rw [delivered]
      exact ⟨settled.stop _, fun _ => finished_stop _ _⟩
  | @next delivery after content rest taken_later unopened in_front sink ends_well drains ih =>
      have settled := balanced.settle_facing discreet sink content rest
      rw [ends_well] at settled
      have delivered := (deliver_of_ok (delivery.facing sink rest) ends_well).2
      rw [delivered] at ih
      rw [← List.singleton_append, ← List.append_assoc]
      exact ih settled

theorem Runs.balanced (discreet : rules.machine.IsDiscreet) {sink : State} {calls : List Call}
    {taken : List (List UInt8)} {unopened : Bool}
    (runs : Runs rules sink calls taken unopened delivery) :
    Balanced taken unopened delivery ∧ (unopened = true → delivery.finished = true) := by
  induction runs with
  | start => exact ⟨⟨rfl, rfl, rfl⟩, by simp⟩
  | @call calls call taken taken_now unopened unopened_now delivery after runs serves ih =>
      rcases ih with ⟨balanced, finishes⟩
      cases serves with
      | feed unfinished drains =>
          -- A delivery that still takes pieces has not found a sink that cannot be opened.
          cases unopened with
          | true =>
              rw [finishes rfl] at unfinished
              cases unfinished
          | false =>
              rw [Bool.false_or]
              exact drains.balanced discreet
                ⟨balanced.settled, balanced.written, balanced.received⟩
      | feed_finished finished =>
          rw [List.append_nil, Bool.or_false]
          exact ⟨balanced, finishes⟩
      | stop =>
          rw [List.append_nil, Bool.or_false]
          exact ⟨balanced.stop _, fun _ => finished_stop _ _⟩
      | endStream =>
          rw [List.append_nil, Bool.or_false]
          exact ⟨balanced.stop _, fun _ => finished_stop _ _⟩

/-! ## The runs of the delivery itself -/

theorem result_write_of_contained (contained : rules.machine.Contained)
    (sink : State × List String) (text : String) :
    (rules.recording.write sink text).result = .ok () ∨
      ∃ fault, (rules.recording.write sink text).result = .error (.unopened fault) := by
  have escapes_not := contained sink.1 text
  cases written : rules.machine.write sink.1 text with
  | mk state result journal bumps =>
      rw [written] at escapes_not
      rcases result with (fault | fault) | answer
      · right
        exact ⟨fault, by simp [Rules.write, Rules.recording, SinkMachine.recording,
          SinkStep.andThen, written]⟩
      · exact absurd rfl (escapes_not fault)
      · left
        simp [Rules.write, Rules.recording, SinkMachine.recording, SinkStep.andThen, written]

/-- A record ends well, or its writing finds that the sink cannot be opened. -/
theorem result_deliver_of_contained (contained : rules.machine.Contained)
    (sink : State × List String) (record : Option Event) :
    (rules.recording.deliver sink record).result = .ok () ∨
      ∃ fault, (rules.recording.deliver sink record).result = .error (.unopened fault) := by
  simp only [Rules.deliver]
  split
  · split
    · exact Or.inl rfl
    · split
      · split
        · exact result_write_of_contained contained sink _
        · exact Or.inl rfl
      · exact Or.inl rfl
  · exact Or.inl rfl

/-- The delivery works off its buffer as it may, and nothing escapes from it. -/
theorem drain_drains (contained : rules.machine.Contained) (unfinished : delivery.finished = false) :
    (delivery.drain rules.recording).escaped = none ∧
      ∃ taken unopened,
        Drains rules delivery taken unopened (delivery.drain rules.recording).delivery := by
  -- What follows a record is draining again, of what the record left of the delivery, and from a
  -- shorter buffer.
  induction measured : delivery.decoder.buffer.length using Nat.strongRecOn
    generalizing delivery with
  | ind size ih =>
      cases in_front : Decoder.front delivery.decoder.buffer with
      | incomplete =>
          rw [drain_of_incomplete rules.recording in_front]
          exact ⟨rfl, [], false, .incomplete in_front⟩
      | corrupt corruption =>
          rcases drain_of_corrupt rules.recording in_front with ⟨harmless, discarded⟩
          rw [harmless, discarded]
          exact ⟨rfl, [], false, .corrupt in_front⟩
      | frame content rest =>
          rcases result_deliver_of_contained contained delivery.sink (Event.parse content).1 with
            ends_well | ⟨fault, breaks⟩
          · rcases deliver_of_ok (delivery.facing delivery.sink.1 rest) ends_well with
              ⟨harmless, delivered⟩
            generalize stepped : (delivery.facing delivery.sink.1 rest).deliver rules.recording
              (Event.parse content).1 = step at harmless delivered
            rcases drain_of_frame rules.recording in_front stepped harmless with ⟨escaped, drained⟩
            have goes_on : step.delivery.finished = false := by
              rw [delivered]
              exact unfinished
            have shorter : step.delivery.decoder.buffer.length < size := by
              rw [← stepped, decoder_deliver, ← measured]
              exact Decoder.length_rest_lt in_front
            rcases ih _ shorter goes_on rfl with ⟨harmless_later, taken, unopened, drains⟩
            rw [escaped, drained, if_neg (by simp [goes_on]), if_neg (by simp [goes_on])]
            refine ⟨harmless_later, content :: taken, unopened,
              .next in_front delivery.sink.1 ends_well ?_⟩
            rw [stepped]
            exact drains
          · rcases deliver_of_unopened (delivery.facing delivery.sink.1 rest) breaks with
              ⟨harmless, delivered⟩
            generalize stepped : (delivery.facing delivery.sink.1 rest).deliver rules.recording
              (Event.parse content).1 = step at harmless delivered
            rcases drain_of_frame rules.recording in_front stepped harmless with ⟨escaped, drained⟩
            have finished : step.delivery.finished = true := by
              rw [delivered]
              exact finished_stop _ _
            rw [escaped, drained, if_pos finished, if_pos finished, ← stepped]
            exact ⟨rfl, [content], true, .unopened in_front delivery.sink.1 breaks⟩

theorem perform_serves (delivery : Delivery (State × List String))
    (contained : rules.machine.Contained) (call : Call) :
    (delivery.perform rules.recording call).escaped = none ∧
      ∃ taken unopened,
        Serves rules delivery call taken unopened
          (delivery.perform rules.recording call).delivery := by
  cases call with
  | feed chunk =>
      cases finished : delivery.finished with
      | true =>
          rw [perform, feed, if_pos finished]
          exact ⟨rfl, [], false, .feed_finished finished⟩
      | false =>
          rw [perform, feed, if_neg (by simp [finished])]
          have unfinished : { delivery with decoder := delivery.decoder.feed chunk }.finished =
            false := finished
          rcases drain_drains contained unfinished with ⟨harmless, taken, unopened, drains⟩
          exact ⟨harmless, taken, unopened, .feed finished drains⟩
  | stop failure => exact ⟨rfl, [], false, .stop⟩
  | endStream => exact ⟨rfl, [], false, .endStream⟩

/-- The delivery runs as it may, and nothing escapes from it. -/
theorem play_runs (contained : rules.machine.Contained) {sink : State} {earlier : List Call}
    {taken : List (List UInt8)} {unopened : Bool}
    (runs : Runs rules sink earlier taken unopened delivery) (calls : List Call) :
    (play rules.recording delivery calls).escaped = none ∧
      ∃ taken unopened,
        Runs rules sink (earlier ++ calls) taken unopened
          (play rules.recording delivery calls).delivery := by
  induction calls generalizing earlier taken unopened delivery with
  | nil =>
      rw [List.append_nil]
      exact ⟨rfl, taken, unopened, runs⟩
  | cons call calls ih =>
      rcases perform_serves delivery contained call with
        ⟨harmless, taken_now, unopened_now, serves⟩
      have later := ih (runs.call serves)
      rw [List.append_assoc, List.singleton_append] at later
      simpa [play, harmless] using later

/-- Every record is accounted for exactly once. Whatever the sink changes into, between the records
and between the calls, what has been received is what was delivered, filtered, dropped or failed, and
one more if a call has found that the sink cannot be opened; the sink was given a text for each that
was delivered or failed, and for that one; and as much has been received as frames were taken. The
delivery itself runs like this from any calls, and nothing escapes from it. -/
theorem runs_balanced (rules : Rules State) (discreet : rules.machine.IsDiscreet) (sink : State) :
    (∀ (calls : List Call) (taken : List (List UInt8)) (unopened : Bool)
        (delivery : Delivery (State × List String)),
      Runs rules sink calls taken unopened delivery → Balanced taken unopened delivery) ∧
    (rules.machine.Contained → ∀ calls : List Call,
      (play rules.recording (start (sink, [])) calls).escaped = none ∧
        ∃ taken unopened,
          Runs rules sink calls taken unopened
            (play rules.recording (start (sink, [])) calls).delivery) := by
  constructor
  · intro calls taken unopened delivery runs
    exact (runs.balanced discreet).1
  · intro contained calls
    exact play_runs contained .start calls

/-- A malformed record and a corrupt frame arrive, and then three records. The sink takes the first of
them and cannot be opened for the second. This sink is discreet, as those of the configurations are. -/
def refusedSecond : List Call :=
  let record := [0, 0, 0, 114] ++ Event.repeatedId
  [.feed [0, 0, 0, 5, 7, 0, 0, 0, 1, 9], .feed (record ++ record ++ record), .feed record, .endStream]

theorem runs_balanced_refusedSecond :
    Sink.machine.IsDiscreet ∧ plainRules.machine.IsDiscreet ∧ plainRules.machine.Contained ∧
      let delivery := (play plainRules.recording (start (false, [])) refusedSecond).delivery
      delivery.stats.totals = ⟨3, 1, 0, 1, 0, 0, 0⟩ ∧
        ∃ taken, Balanced taken true delivery := by
  have discreet : plainRules.machine.IsDiscreet := by
    intro taken text
    cases taken <;> simp [plainRules, takesOne]
  have contained : plainRules.machine.Contained := by
    intro taken text fault
    cases taken <;> simp [plainRules, takesOne, SinkStep.failed, SinkStep.done]
  have totals : (play plainRules.recording (start (false, [])) refusedSecond).delivery.stats.totals =
      ⟨3, 1, 0, 1, 0, 0, 0⟩ := by
    decide +kernel
  rcases (runs_balanced plainRules discreet false).2 contained refusedSecond with
    ⟨-, taken, unopened, runs⟩
  have balanced := (runs_balanced plainRules discreet false).1 _ _ _ _ runs
  have settled := balanced.settled
  rw [totals] at settled
  cases unopened with
  | false => cases settled
  | true => exact ⟨Sink.machine_isDiscreet, discreet, contained, totals, taken, balanced⟩

end Delivery

end LogRelay
