import LogRelay.Record.Stream
import LogRelay.Render.Template
import LogRelay.Sink.Step

/-!
# The delivery

Records are taken one at a time and in order from the stream to the sink. A record is dropped if the
sink is not connected, if it is malformed or if it cannot be rendered, and it is left out if the filter
does not accept it; none of this ends the delivery. Every record is counted as received and, unless its
writing ends the delivery, once more by what became of it.

The delivery is finished by the end of the stream, by a request to stop, or by a sink that can no longer
be opened. What finished it first is the only failure that counts.
-/

namespace LogRelay

/-- How records are delivered: which messages are accepted, how an event is rendered and how the sink
takes texts, and whether the stream is not supposed to end. -/
structure Rules (State : Type) where
  accepts : String → Bool
  render : Event → Except RenderFault String
  machine : SinkMachine State
  follow : Bool

/-- What finished a delivery before its time. -/
inductive Failure where
  /-- The sink cannot be opened. -/
  | unopened (fault : OpenFault)
  /-- The source of the records cannot be reached. -/
  | unavailable (path : String) (attempts : Int)
  | other (fault : SystemFault)
  deriving DecidableEq, Repr

/-- A delivery under way. -/
structure Delivery (State : Type) where
  sink : State
  decoder : Decoder
  stats : Stats
  finished : Bool
  failure : Option Failure

/-- What a step of a delivery comes to. A failure that no sink deals with breaks the step off. -/
structure DeliveryStep (State : Type) where
  delivery : Delivery State
  escaped : Option SystemFault
  journal : Journal

namespace Rules

variable {State : Type}

/-- Takes a text to the sink, and counts what became of it. -/
def write (rules : Rules State) (sink : State) (text : String) : SinkStep State Unit :=
  (rules.machine.write sink text).andThen fun sink accepted =>
    ⟨sink, .ok (), [], [if accepted then .delivered else .failed]⟩

/-- Takes one record to the sink, none standing for a malformed one, and counts what became of it. -/
def deliver (rules : Rules State) (sink : State) (record : Option Event) : SinkStep State Unit :=
  if rules.machine.isConnected sink then
    match record with
    | none =>
        ⟨sink, .ok (), [⟨.debug, .delivery, "Dropping record with missing or malformed fields"⟩],
          [.dropped]⟩
    | some event =>
        if rules.accepts event.message then
          match rules.render event with
          | .ok text => rules.write sink text
          | .error fault =>
              ⟨sink, .ok (), [⟨.error, .delivery,
                "Dropping record " ++ toString event.id ++ ": " ++ fault.message⟩], [.dropped]⟩
        else ⟨sink, .ok (), [], [.filtered]⟩
  else ⟨sink, .ok (), [], [.dropped]⟩

end Rules

namespace Delivery

variable {State : Type}

/-- A delivery to which nothing has arrived. -/
def start (sink : State) : Delivery State := ⟨sink, .empty, .fresh, false, none⟩

/-- Finishes the delivery, unless it is finished already. -/
def stop (delivery : Delivery State) (failure : Option Failure) : Delivery State :=
  if delivery.finished then delivery
  else { delivery with finished := true, failure := failure }

/-- Takes one record to the sink. A sink that cannot be opened finishes the delivery. -/
def deliver (rules : Rules State) (delivery : Delivery State) (record : Option Event) :
    DeliveryStep State :=
  let step := rules.deliver delivery.sink record
  let after := { delivery with
    sink := step.state
    stats := (delivery.stats.bump .received).bumpAll step.bumps }
  match step.result with
  | .ok () => ⟨after, none, step.journal⟩
  | .error (.unopened fault) => ⟨after.stop (some (.unopened fault)), none, step.journal⟩
  | .error (.escaped fault) => ⟨after, some fault, step.journal⟩

/-- Delivers the records whose frames have arrived completely. What follows a corrupt frame is thrown
away, and what follows a record that ends the delivery stays. -/
def drain (rules : Rules State) (delivery : Delivery State) : DeliveryStep State :=
  match _shape : Decoder.front delivery.decoder.buffer with
  | .incomplete => ⟨delivery, none, []⟩
  | .corrupt corruption =>
      ⟨{ delivery with decoder := .empty }, none,
        [⟨.error, .delivery, "Corrupt record stream: " ++ corruption.message⟩]⟩
  | .frame payload rest =>
      let (record, notes) := Event.parse payload
      let step := deliver rules { delivery with decoder := ⟨rest⟩ } record
      if step.delivery.finished || step.escaped.isSome then
        { step with journal := notes ++ step.journal }
      else
        let later := drain rules { step.delivery with decoder := ⟨rest⟩ }
        { later with journal := notes ++ step.journal ++ later.journal }
termination_by delivery.decoder.buffer.length
decreasing_by exact Decoder.length_rest_lt _shape

/-- A piece of the stream has arrived. A finished delivery takes no more. -/
def feed (rules : Rules State) (delivery : Delivery State) (chunk : List UInt8) :
    DeliveryStep State :=
  if delivery.finished then ⟨delivery, none, []⟩
  else drain rules { delivery with decoder := delivery.decoder.feed chunk }

/-- The stream has ended. -/
def endStream (rules : Rules State) (delivery : Delivery State) : Delivery State × Journal :=
  let pending := delivery.decoder.pending
  (delivery.stop none,
    (if pending = 0 then []
      else [⟨.debug, .delivery, "Discarding " ++ toString pending ++
        " bytes of incomplete record"⟩]) ++
    [if rules.follow then ⟨.warning, .delivery, "Log source closed the stream while following"⟩
      else ⟨.info, .delivery, "End of log stream"⟩])

end Delivery

end LogRelay
