import LogRelay.Proofs.Delivery.Wordings
import LogRelay.Proofs.Source.Progress
import LogRelay.Proofs.Source.Scripts
import LogRelay.Relay

/-!
# What finishes a run

While its client is under way, a delivery may be finished several times over: by the end of the stream,
by requests to stop, by a file that cannot be opened again and by a source that cannot be reached. Only
the first of them counts (`Client.Standing`), in whatever order they come about and whatever happens to
the sink meanwhile (`Relay.Runs.standing`).
-/

namespace LogRelay

open LogRelay.Stream

/-- What finishes a delivery. -/
inductive Finisher where
  /-- The stream has ended, or can no longer be read. -/
  | ended
  /-- Somebody has asked for the delivery to stop. -/
  | requested
  /-- The file of the sink cannot be opened again. -/
  | unopened (fault : OpenFault)
  /-- The source cannot be reached. -/
  | unavailable

namespace Finisher

/-- The failure that it finishes a delivery with. -/
def failure? (options : ClientOptions) : Finisher → Option Failure
  | ended | requested => none
  | unopened fault => some (.unopened fault)
  | unavailable => some (.unavailable options.path options.attempts)

end Finisher

/-! ## The delivery -/

namespace Delivery

variable {State : Type} {options : ClientOptions} {delivery : Delivery State}
  {finishers : List Finisher}

/-- The delivery is finished by the first of these. -/
structure Marked (options : ClientOptions) (finishers : List Finisher) (delivery : Delivery State) :
    Prop where
  finished : delivery.finished = !finishers.isEmpty
  failure : delivery.failure = finishers.head?.bind (Finisher.failure? options)

theorem Marked.ne_nil (marked : Marked options finishers delivery)
    (finished : delivery.finished = true) : finishers ≠ [] := by
  rintro rfl
  simp [marked.finished] at finished

theorem Marked.finished_of_ne_nil (marked : Marked options finishers delivery)
    (some_finisher : finishers ≠ []) : delivery.finished = true := by
  rw [marked.finished]
  simpa using some_finisher

theorem stop_of_finished (finished : delivery.finished = true) (failure : Option Failure) :
    delivery.stop failure = delivery := by
  rw [stop, if_pos finished]

/-- A delivery that is finished once more remembers what has finished it first. -/
theorem Marked.stop (marked : Marked options finishers delivery) (finisher : Finisher) :
    Marked options (finishers ++ [finisher]) (delivery.stop (finisher.failure? options)) := by
  cases finishers with
  | nil =>
      have unfinished : delivery.finished = false := marked.finished
      rw [Delivery.stop, if_neg (by simp [unfinished])]
      exact ⟨rfl, rfl⟩
  | cons first later =>
      rw [stop_of_finished marked.finished]
      exact ⟨marked.finished, marked.failure⟩

/-- What finishes a delivery that is fed a piece, if anything does. -/
def finishersOf (rules : Rules State) (delivery : Delivery State) (chunk : List UInt8) :
    List Finisher :=
  if delivery.finished then []
  else ((rules.deliverAll delivery.sink
    (records (delivery.decoder.buffer ++ chunk))).unopened?.map .unopened).toList

theorem Marked.feed (rules : Rules State) (marked : Marked options finishers delivery)
    (chunk : List UInt8) :
    Marked options (finishers ++ delivery.finishersOf rules chunk)
      (delivery.feed rules chunk).delivery := by
  cases finished : delivery.finished with
  | true => simpa [Delivery.feed, finishersOf, finished] using marked
  | false =>
      have no_finisher : finishers = [] := by
        simpa [marked.finished] using finished
      have no_failure : delivery.failure = none := by
        rw [marked.failure, no_finisher]
        rfl
      have follows := feed_follows rules finished chunk
      simp only [no_finisher, List.nil_append, finishersOf, finished, Bool.false_eq_true, if_false]
      constructor
      · rw [follows.finished]
        cases (rules.deliverAll delivery.sink
          (records (delivery.decoder.buffer ++ chunk))).unopened? <;> rfl
      · rw [follows.failure, no_failure]
        cases (rules.deliverAll delivery.sink
          (records (delivery.decoder.buffer ++ chunk))).unopened? <;> rfl

end Delivery

/-! ## The client -/

/-- The client has ended without a failure, or with one that its run deals with. -/
def Ending.IsOrderly : Ending → Prop
  | .returned | .unavailable | .cancelled => True
  | .unfit _ | .escaped _ => False

namespace Client

variable {State : Type} {options : ClientOptions} {rules : Rules State} {kind : State → Prop}
  {client after : Client State} {finishers : List Finisher} {happening : Happening} {notes : Journal}

/-- What finishes the delivery of a client for which something comes about. -/
def finishersOf (options : ClientOptions) (rules : Rules State) (client : Client State) :
    Happening → List Finisher
  | .connected (.ok ()) | .sent (.ok ()) | .closed _ => []
  | .connected (.error _) =>
      if ((client.attempts + 1 : Nat) : Int) < options.attempts then [] else [.unavailable]
  | .read (.ok (byte :: bytes)) => client.delivery.finishersOf rules (byte :: bytes)
  | .read _ | .sent (.error _) => [.ended]
  | .stopped => [.requested]

/-- The client when a source that it could not reach has finished its delivery. -/
def settled (options : ClientOptions) (client : Client State) : Client State :=
  match client.phase with
  | .ended ending => { client with delivery := Relay.settle options ending client.delivery }
  | _ => client

theorem settled_of_waits (waits : client.phase.Waits) : client.settled options = client := by
  rw [settled]
  split
  · rename_i ending ended
    exact absurd ended (waits ending)
  · rfl

theorem settle_of_finished (options : ClientOptions) (ending : Ending) {delivery : Delivery State}
    (finished : delivery.finished = true) : Relay.settle options ending delivery = delivery := by
  cases ending with
  | unavailable => exact Delivery.stop_of_finished finished _
  | returned | unfit fault | escaped fault | cancelled => rfl

theorem settle_settle (options : ClientOptions) (ending : Ending) (delivery : Delivery State) :
    Relay.settle options ending (Relay.settle options ending delivery) =
      Relay.settle options ending delivery := by
  cases ending with
  | unavailable => exact Delivery.stop_of_finished (Delivery.finished_stop _ _) _
  | returned | unfit fault | escaped fault | cancelled => rfl

theorem settled_of_finished (finished : client.delivery.finished = true) :
    client.settled options = client := by
  rw [settled]
  split
  · rw [settle_of_finished options _ finished]
  · rfl

theorem sink_settle (options : ClientOptions) (ending : Ending) (delivery : Delivery State) :
    (Relay.settle options ending delivery).sink = delivery.sink := by
  cases ending with
  | unavailable => exact Delivery.sink_stop delivery _
  | returned | unfit fault | escaped fault | cancelled => rfl

theorem phase_settled (options : ClientOptions) (client : Client State) :
    (client.settled options).phase = client.phase := by
  rw [settled]
  split <;> rfl

/-- Where a client stands whose delivery is finished by the first of these. -/
structure Standing (options : ClientOptions) (kind : State → Prop) (finishers : List Finisher)
    (client : Client State) : Prop where
  sink : kind client.delivery.sink
  marked : Delivery.Marked options finishers client.delivery
  /-- A client that comes to its end has its delivery finished. -/
  ends : ∀ ending, client.phase = .closing ending ∨ client.phase = .ended ending →
    finishers ≠ [] ∧ ending.IsOrderly

theorem standing_of_open (sink : kind client.delivery.sink)
    (marked : Delivery.Marked options finishers client.delivery)
    (waits : client.phase = .connecting ∨ client.phase = .sending ∨ client.phase = .reading) :
    Standing options kind finishers client := by
  refine ⟨sink, marked, ?_⟩
  rintro ending (closing | ended)
  · simp [closing] at waits
  · simp [ended] at waits

theorem standing_of_end (ending : Ending) (sink : kind client.delivery.sink)
    (marked : Delivery.Marked options finishers client.delivery) (some_finisher : finishers ≠ [])
    (orderly : ending.IsOrderly)
    (ends : client.phase = .closing ending ∨ client.phase = .ended ending) :
    Standing options kind finishers client := by
  refine ⟨sink, marked, ?_⟩
  intro other ends_so
  have same : other = ending := by
    rcases ends with closing | ended
    · simpa [closing, eq_comm] using ends_so
    · simpa [ended, eq_comm] using ends_so
  rw [same]
  exact ⟨some_finisher, orderly⟩

theorem standing_of_proceed (sink : kind client.delivery.sink)
    (marked : Delivery.Marked options finishers client.delivery) :
    Standing options kind finishers client.proceed := by
  rw [proceed]
  split
  · rename_i finished
    exact standing_of_end .returned sink marked (marked.ne_nil finished) trivial (.inl rfl)
  · exact standing_of_open sink marked (.inr (.inr rfl))

theorem standing_of_finish (sink : kind client.delivery.sink)
    (marked : Delivery.Marked options finishers client.delivery) (rules : Rules State) :
    Standing options kind (finishers ++ [.ended]) (client.finish rules).1 := by
  have sink_after : kind (client.delivery.stop none).sink := by
    rw [Delivery.sink_stop]
    exact sink
  exact standing_of_end .returned sink_after (marked.stop .ended) (by simp) trivial (.inl rfl)

theorem Standing.settled (standing : Standing options kind finishers client) :
    Standing options kind finishers (client.settled options) := by
  by_cases waits : client.phase.Waits
  · rw [settled_of_waits waits]
    exact standing
  · simp only [ClientPhase.Waits, ne_eq, not_forall, not_not] at waits
    rcases waits with ⟨ending, ended⟩
    rcases standing.ends ending (.inr ended) with ⟨some_finisher, -⟩
    rw [settled_of_finished (standing.marked.finished_of_ne_nil some_finisher)]
    exact standing

theorem Standing.onConnect
    (requested : ∃ request, Request.encode options.lines options.follow = .ok request)
    (standing : Standing options kind finishers client) {result : Except SystemFault Unit}
    (tame : (Happening.connected result).Tame) :
    Standing options kind (finishers ++ client.finishersOf options rules (.connected result))
      ((client.onConnect options result).1.settled options) := by
  cases result with
  | ok made =>
      rcases requested with ⟨request, requested⟩
      simp only [Client.onConnect, requested, finishersOf, List.append_nil]
      exact standing_of_open standing.sink standing.marked (.inr (.inl rfl))
  | error fault =>
      simp only [Client.onConnect, tame fault rfl, if_true, finishersOf]
      split
      · rw [List.append_nil]
        exact standing_of_open standing.sink standing.marked (.inl rfl)
      · have sink_after : kind (client.delivery.stop
            (some (.unavailable options.path options.attempts))).sink := by
          rw [Delivery.sink_stop]
          exact standing.sink
        exact standing_of_end .unavailable sink_after (standing.marked.stop .unavailable) (by simp)
          trivial (.inr rfl)

theorem Standing.onSent (standing : Standing options kind finishers client)
    {result : Except SystemFault Unit} (tame : (Happening.sent result).Tame) :
    Standing options kind (finishers ++ client.finishersOf options rules (.sent result))
      (client.onSent rules result).1 := by
  cases result with
  | ok sent =>
      rw [finishersOf, List.append_nil]
      exact standing_of_proceed standing.sink standing.marked
  | error fault =>
      simp only [Client.onSent, tame fault rfl, if_true, finishersOf]
      exact standing_of_finish standing.sink standing.marked rules

theorem Standing.onRead
    (contained : ∀ sink text, kind sink → (rules.machine.write sink text).Contained kind)
    (standing : Standing options kind finishers client) {result : Except SystemFault (List UInt8)}
    (tame : (Happening.read result).Tame) :
    Standing options kind (finishers ++ client.finishersOf options rules (.read result))
      (client.onRead rules result).1 := by
  rcases result with fault | (_ | ⟨byte, bytes⟩)
  · simp only [Client.onRead, tame fault rfl, if_true, finishersOf]
    exact standing_of_finish standing.sink standing.marked rules
  · exact standing_of_finish standing.sink standing.marked rules
  · have fed := standing.marked.feed rules (byte :: bytes)
    have harmless : (client.delivery.feed rules (byte :: bytes)).escaped = none ∧
        kind (client.delivery.feed rules (byte :: bytes)).delivery.sink := by
      cases finished : client.delivery.finished with
      | true =>
          simp only [Delivery.feed, finished, if_true]
          exact ⟨trivial, standing.sink⟩
      | false =>
          have follows := Delivery.feed_follows rules finished (byte :: bytes)
          have stays := Rules.deliverAll_contained contained standing.sink
            (records (client.delivery.decoder.buffer ++ byte :: bytes))
          rw [follows.escaped, follows.sink, Delivery.escaped?_of_contained stays]
          exact ⟨rfl, stays.1⟩
    simp only [Client.onRead, harmless.1]
    exact standing_of_proceed harmless.2 fed

theorem Standing.onClosed {ending : Ending} (standing : Standing options kind finishers client)
    (waits : client.phase = .closing ending) {result : Except SystemFault Unit}
    (tame : (Happening.closed result).Tame) :
    Standing options kind (finishers ++ client.finishersOf options rules (.closed result))
      (client.onClosed ending result) := by
  rcases standing.ends ending (.inl waits) with ⟨some_finisher, orderly⟩
  have closed : client.onClosed ending result = { client with phase := .ended ending } := by
    cases result with
    | ok done => rfl
    | error fault => simp [Client.onClosed, tame fault rfl]
  rw [finishersOf, List.append_nil, closed]
  exact standing_of_end ending standing.sink standing.marked some_finisher orderly (.inr rfl)

theorem Standing.stop (standing : Standing options kind finishers client) :
    Standing options kind (finishers ++ [.requested]) client.stop := by
  refine ⟨?_, standing.marked.stop .requested, ?_⟩
  · rw [Client.stop, Delivery.sink_stop]
    exact standing.sink
  · intro ending ends
    exact ⟨by simp, (standing.ends ending ends).2⟩

/-- Each step of a client adds what finishes its delivery to what has finished it before. -/
theorem Standing.step
    (requested : ∃ request, Request.encode options.lines options.follow = .ok request)
    (contained : ∀ sink text, kind sink → (rules.machine.write sink text).Contained kind)
    (standing : Standing options kind finishers client)
    (step : Step options rules client happening after notes) (tame : happening.Tame) :
    Standing options kind (finishers ++ client.finishersOf options rules happening)
      (after.settled options) := by
  cases step with
  | connected waits result => exact standing.onConnect requested tame
  | sent waits result => exact (standing.onSent tame).settled
  | read waits result => exact (standing.onRead contained tame).settled
  | closed waits result => exact (standing.onClosed waits tame).settled
  | stopped => exact standing.stop.settled

theorem Standing.cancel (standing : Standing options kind finishers client)
    (finished : client.delivery.finished = true) :
    Standing options kind finishers client.cancel := by
  have some_finisher := standing.marked.ne_nil finished
  have is_end : ∀ {after : Client State}, after.delivery = client.delivery →
      (after.phase = .closing .cancelled ∨ after.phase = .ended .cancelled) →
      Standing options kind finishers after := by
    intro after same ends
    refine standing_of_end .cancelled ?_ ?_ some_finisher trivial ends
    · rw [same]
      exact standing.sink
    · rw [same]
      exact standing.marked
  rw [Client.cancel]
  split
  · exact is_end rfl (.inr rfl)
  · exact is_end rfl (.inl rfl)
  · exact is_end rfl (.inl rfl)
  · exact is_end rfl (.inr rfl)
  · exact standing

end Client

/-! ## The run -/

namespace Relay

/-- What can become of a client and its delivery in a run, and what has finished the delivery by then,
the first one first: things come about for the client, it is cancelled when its delivery is finished,
and things happen to the sink. -/
inductive Runs (session : Session) : List Finisher → Client Sink.State → Prop where
  | start : Runs session [] (.start session.keeper.options (.start session.sink))
  | came {finishers : List Finisher} {client after : Client Sink.State} {happening : Happening}
      {notes : Journal} (runs : Runs session finishers client)
      (step : Client.Step session.keeper.options session.keeper.rules client happening after notes)
      (tame : happening.Tame) :
      Runs session
        (finishers ++ client.finishersOf session.keeper.options session.keeper.rules happening)
        (after.settled session.keeper.options)
  | cancelled {finishers : List Finisher} {client : Client Sink.State}
      (runs : Runs session finishers client) (finished : client.delivery.finished = true) :
      Runs session finishers client.cancel
  | changed {finishers : List Finisher} {client : Client Sink.State} {sink : Sink.State}
      (runs : Runs session finishers client) (changes : Sink.Changes client.delivery.sink sink) :
      Runs session finishers { client with delivery := { client.delivery with sink := sink } }

/-- A session with a sink whose calls fail by the operating system only, and with a request that can be
made. -/
structure Ready (session : Session) : Prop where
  sink : Sink.Tame session.sink
  machine : session.keeper.rules.machine = Sink.machine
  attempts : 0 < session.keeper.options.attempts
  request : ∃ request,
    Request.encode session.keeper.options.lines session.keeper.options.follow = .ok request

variable {session : Session} {finishers : List Finisher} {client : Client Sink.State}

theorem Runs.standing (ready : Ready session) (runs : Runs session finishers client) :
    Client.Standing session.keeper.options Sink.Tame finishers client := by
  have contained : ∀ sink text, Sink.Tame sink →
      (session.keeper.rules.machine.write sink text).Contained Sink.Tame := by
    intro sink text tame
    rw [ready.machine]
    exact Sink.write_contained tame text
  induction runs with
  | start =>
      apply Client.standing_of_open
      · exact ready.sink
      · exact ⟨rfl, rfl⟩
      · simp [Client.start, ready.attempts]
  | came runs step tame ih => exact Client.Standing.step ready.request contained ih step tame
  | cancelled runs finished ih => exact ih.cancel finished
  | changed runs changes ih =>
      exact ⟨changes.tame ih.sink, ⟨ih.marked.finished, ih.marked.failure⟩, ih.ends⟩

/-- A client against a script is one that such a run leads to. -/
theorem runs_play (ready : Ready session) {script : Script} (tame : script.Tame) :
    ∃ finishers, Runs session finishers
      ((session.keeper.play (.start session.sink) script).client.settled session.keeper.options) := by
  have lasts : session.keeper.Lasts fun client =>
      ∃ finishers, Runs session finishers (client.settled session.keeper.options) := by
    constructor
    · rintro client after happening notes ⟨finishers, runs⟩ waits step tame_happening
      rw [Client.settled_of_waits waits] at runs
      exact ⟨_, runs.came step tame_happening⟩
    · rintro client ⟨finishers, runs⟩ waits finished
      rw [Client.settled_of_waits waits] at runs
      have cancelled := runs.cancelled finished
      have finished_after : client.cancel.delivery.finished = true := by
        rw [Client.cancel]
        split <;> exact finished
      rw [← Client.settled_of_finished finished_after] at cancelled
      exact ⟨_, cancelled⟩
  apply lasts.play tame
  have waits : (Client.start session.keeper.options
      (Delivery.start session.sink)).phase.Waits := by
    rw [Client.start, if_pos ready.attempts]
    simp [ClientPhase.Waits]
  exact ⟨[], by rw [Client.settled_of_waits waits]; exact .start⟩

end Relay

end LogRelay
