import LogRelay.Proofs.Delivery.Records
import LogRelay.Proofs.Delivery.Balance

/-!
# Recovery from corrupt frames

A header that declares less than itself makes the rest of its piece meaningless: the frames in front of
it are delivered, it is told in the journal, and the next piece is cut as if nothing had come before.
The reference cuts each piece by itself, together with what waits for it (`Stream.arrivals`), and works
off its frames. It knows of no decoder that drains.

With a sink that takes whatever it is given, or answers that it does not, a delivery is this reference
(`feedAll_serves`). So a corrupt header costs its piece and nothing else, however often one comes.
-/

namespace LogRelay

namespace Stream

/-- The corrupt header at which the frames of a byte sequence stop, if they stop at one. -/
def corruption? (bytes : List UInt8) : Option Corruption :=
  match declared? (remainder bytes) with
  | some length => if length < 4 then some ⟨length, (remainder bytes).length⟩ else none
  | none => none

/-- What waits for the next piece. Nothing does behind a corrupt header. -/
def waiting (bytes : List UInt8) : List UInt8 :=
  match corruption? bytes with
  | some _ => []
  | none => remainder bytes

/-- What waits for the next piece after some have arrived. -/
def waitingAfter (before : List UInt8) (pieces : List (List UInt8)) : List UInt8 :=
  pieces.foldl (fun before piece => waiting (before ++ piece)) before

/-- For each piece, the bytes that are there when it has arrived. -/
def arrivals (before : List UInt8) : List (List UInt8) → List (List UInt8)
  | [] => []
  | piece :: pieces => (before ++ piece) :: arrivals (waiting (before ++ piece)) pieces

theorem corruption?_of_isPartial {whole : List (List UInt8)}
    (are_frames : ∀ frame ∈ whole, IsFrame frame) {rest : List UInt8} (lacks : IsPartial rest) :
    corruption? (whole.flatten ++ rest) = none := by
  have left : remainder (whole.flatten ++ rest) = rest := by
    rw [remainder_flatten_append are_frames, remainder, frames_eq_nil_of_isPartial lacks]
    rfl
  simp only [corruption?, left]
  split
  · rename_i length declares
    have enough := four_le_length declares
    have short := lacks length declares
    apply if_neg
    omega
  · rfl

theorem corruption?_of_isCorrupt {whole : List (List UInt8)}
    (are_frames : ∀ frame ∈ whole, IsFrame frame) {rest : List UInt8} {length : Nat}
    (declares : declared? rest = some length) (too_small : length < 4) :
    corruption? (whole.flatten ++ rest) = some ⟨length, rest.length⟩ := by
  have left : remainder (whole.flatten ++ rest) = rest := by
    rw [remainder_flatten_append are_frames, remainder_of_isCorrupt ⟨length, declares, too_small⟩]
  simp [corruption?, left, declares, too_small]

end Stream

open LogRelay.Stream

/-! ## The reference -/

namespace SinkMachine

variable {State : Type}

/-- As long as its state is of some kind, and it stays of this kind, the sink is connected and answers
whatever it is given. -/
structure Reliable (machine : SinkMachine State) (kind : State → Prop) : Prop where
  connected : ∀ state, kind state → machine.isConnected state = true
  answers : ∀ state text, kind state → ∃ answer, (machine.write state text).result = .ok answer
  stays : ∀ state text, kind state → kind (machine.write state text).state

theorem Reliable.recording {machine : SinkMachine State} {kind : State → Prop}
    (reliable : machine.Reliable kind) : machine.recording.Reliable fun state => kind state.1 where
  connected state := reliable.connected state.1
  answers state := reliable.answers state.1
  stays state := reliable.stays state.1

end SinkMachine

namespace Rules

variable {State : Type}

/-- Takes one frame from the stream, and its record to the sink. -/
def receive (rules : Rules State) (sink : State) (frame : List UInt8) : SinkStep State Unit :=
  let (record, notes) := Event.parse (payload frame)
  SinkStep.andThen ⟨sink, .ok (), notes, [.received]⟩ fun sink _ => rules.deliver sink record

/-- Takes frames from the stream, one after the other. -/
def receiveAll (rules : Rules State) (sink : State) : List (List UInt8) → SinkStep State Unit
  | [] => .done sink ()
  | frame :: whole => (rules.receive sink frame).andThen fun sink _ => receiveAll rules sink whole

/-- What the journal says about a corrupt header. -/
def alarm (corruption : Corruption) : Entry :=
  ⟨.error, .delivery, "Corrupt record stream: " ++ corruption.message⟩

/-- Works off the bytes that are there when a piece has arrived: their frames, and then the corrupt
header at which these stop, if they stop at one. -/
def serve (rules : Rules State) (sink : State) (bytes : List UInt8) : SinkStep State Unit :=
  (rules.receiveAll sink (frames bytes)).andThen fun sink _ =>
    ⟨sink, .ok (), (corruption? bytes).toList.map alarm, []⟩

/-- Works off what arrives, piece by piece. -/
def serveAll (rules : Rules State) (sink : State) : List (List UInt8) → SinkStep State Unit
  | [] => .done sink ()
  | bytes :: later => (rules.serve sink bytes).andThen fun sink _ => serveAll rules sink later

/-- The text that the record in a frame comes to: none if it is malformed, is not accepted or cannot be
rendered. -/
def text? (rules : Rules State) (frame : List UInt8) : Option String :=
  match (Event.parse (payload frame)).1 with
  | none => none
  | some event => if rules.accepts event.message then (rules.render event).toOption else none

/-- The record in a frame is well formed, and the filter does not accept it. -/
def rejects (rules : Rules State) (frame : List UInt8) : Bool :=
  match (Event.parse (payload frame)).1 with
  | none => false
  | some event => !rules.accepts event.message

end Rules

/-! ## Draining as the reference has it -/

namespace Rules

variable {State : Type} {rules : Rules State} {kind : State → Prop} {sink : State}

theorem deliver_answers (reliable : rules.machine.Reliable kind) (of_kind : kind sink)
    (record : Option Event) :
    (rules.deliver sink record).result = .ok () ∧ kind (rules.deliver sink record).state := by
  by_cases speaks : rules.Speaks sink record
  · rcases speaks with ⟨connected, event, text, rfl, accepted, rendered⟩
    rcases reliable.answers sink text of_kind with ⟨answer, answers⟩
    rw [deliver_of_speaks connected accepted rendered, write, SinkStep.andThen_of_ok answers]
    exact ⟨rfl, reliable.stays sink text of_kind⟩
  · rcases deliver_of_silent speaks with ⟨same, ends_well⟩
    rw [same]
    exact ⟨ends_well, of_kind⟩

theorem receive_answers (rules : Rules State) (reliable : rules.machine.Reliable kind)
    (of_kind : kind sink) (frame : List UInt8) :
    (rules.receive sink frame).result = .ok () ∧ kind (rules.receive sink frame).state :=
  deliver_answers reliable of_kind (Event.parse (payload frame)).1

theorem receiveAll_answers (reliable : rules.machine.Reliable kind) (of_kind : kind sink)
    (whole : List (List UInt8)) :
    (rules.receiveAll sink whole).result = .ok () ∧ kind (rules.receiveAll sink whole).state := by
  induction whole generalizing sink with
  | nil => exact ⟨rfl, of_kind⟩
  | cons frame whole ih =>
      rcases receive_answers rules reliable of_kind frame with ⟨ends_well, of_kind_after⟩
      rw [receiveAll, SinkStep.andThen_of_ok ends_well]
      exact ih of_kind_after

theorem receiveAll_append (rules : Rules State) (sink : State) (earlier later : List (List UInt8)) :
    rules.receiveAll sink (earlier ++ later) =
      (rules.receiveAll sink earlier).andThen fun sink _ => rules.receiveAll sink later := by
  induction earlier generalizing sink with
  | nil => rfl
  | cons frame earlier ih =>
      rw [List.cons_append, receiveAll, receiveAll, SinkStep.andThen_assoc]
      congr 1
      funext sink _
      exact ih sink

theorem serve_answers (reliable : rules.machine.Reliable kind) (of_kind : kind sink)
    (bytes : List UInt8) :
    (rules.serve sink bytes).result = .ok () ∧ kind (rules.serve sink bytes).state := by
  rcases receiveAll_answers reliable of_kind (frames bytes) with ⟨ends_well, of_kind_after⟩
  rw [serve, SinkStep.andThen_of_ok ends_well]
  exact ⟨rfl, of_kind_after⟩

theorem serveAll_answers (rules : Rules State) (reliable : rules.machine.Reliable kind)
    (of_kind : kind sink) (arriving : List (List UInt8)) :
    (rules.serveAll sink arriving).result = .ok () ∧ kind (rules.serveAll sink arriving).state := by
  induction arriving generalizing sink with
  | nil => exact ⟨rfl, of_kind⟩
  | cons bytes later ih =>
      rcases serve_answers reliable of_kind bytes with ⟨ends_well, of_kind_after⟩
      rw [serveAll, SinkStep.andThen_of_ok ends_well]
      exact ih of_kind_after

/-- Frames that stop at a corrupt header are followed by an entry in the journal. -/
theorem serve_of_corruption (reliable : rules.machine.Reliable kind) (of_kind : kind sink)
    {bytes : List UInt8} {corruption : Corruption} (corrupt : corruption? bytes = some corruption) :
    rules.serve sink bytes =
      let received := rules.receiveAll sink (frames bytes)
      ⟨received.state, .ok (), received.journal ++ [alarm corruption], received.bumps⟩ := by
  have ends_well := (receiveAll_answers reliable of_kind (frames bytes)).1
  rw [serve, SinkStep.andThen_of_ok ends_well, corrupt]
  simp

/-- What arrives is worked off like its frames alone, but for what is told of corrupt headers. -/
theorem serveAll_frames (rules : Rules State) (reliable : rules.machine.Reliable kind)
    (of_kind : kind sink) (arriving : List (List UInt8)) :
    (rules.serveAll sink arriving).state = (rules.receiveAll sink (arriving.flatMap frames)).state ∧
      (rules.serveAll sink arriving).bumps =
        (rules.receiveAll sink (arriving.flatMap frames)).bumps := by
  induction arriving generalizing sink with
  | nil => exact ⟨rfl, rfl⟩
  | cons bytes later ih =>
      rcases receiveAll_answers reliable of_kind (frames bytes) with ⟨ends_well, of_kind_after⟩
      rcases ih of_kind_after with ⟨state_eq, bumps_eq⟩
      rw [serveAll, serve, List.flatMap_cons, receiveAll_append, SinkStep.andThen_assoc,
        SinkStep.andThen_of_ok ends_well, SinkStep.andThen_of_ok ends_well]
      refine ⟨state_eq, ?_⟩
      simpa [SinkStep.andThen] using bumps_eq

end Rules

namespace Delivery

variable {State : Type} {rules : Rules State} {kind : State → Prop} {delivery : Delivery State}

/-- The delivery when its sink has taken a step, with the bytes that wait then. -/
def served (delivery : Delivery State) (step : SinkStep State Unit) (left : List UInt8) :
    Delivery State :=
  { delivery with
    sink := step.state
    stats := delivery.stats.bumpAll step.bumps
    decoder := ⟨left⟩ }

theorem served_andThen {first : SinkStep State Unit} (ends_well : first.result = .ok ())
    (next : State → SinkStep State Unit) (between left : List UInt8) :
    (delivery.served first between).served (next first.state) left =
      delivery.served (first.andThen fun sink _ => next sink) left := by
  rw [SinkStep.andThen_of_ok ends_well]
  simp [served, Stats.bumpAll_append]

theorem deliver_of_answers {record : Option Event}
    (ends_well : (rules.deliver delivery.sink record).result = .ok ()) :
    delivery.deliver rules record =
      let step := rules.deliver delivery.sink record
      ⟨{ delivery with
          sink := step.state
          stats := (delivery.stats.bump .received).bumpAll step.bumps }, none, step.journal⟩ := by
  simp [deliver, ends_well]

/-- The frames in front of the buffer are received before anything else is done. -/
theorem drain_receives (reliable : rules.machine.Reliable kind) (whole : List (List UInt8))
    (are_frames : ∀ frame ∈ whole, IsFrame frame) {rest : List UInt8}
    (unfinished : delivery.finished = false) (of_kind : kind delivery.sink)
    (holds : delivery.decoder = ⟨whole.flatten ++ rest⟩) :
    drain rules delivery =
      let later := drain rules (delivery.served (rules.receiveAll delivery.sink whole) rest)
      { later with journal := (rules.receiveAll delivery.sink whole).journal ++ later.journal } := by
  induction whole generalizing delivery with
  | nil =>
      have same : delivery.served (.done delivery.sink ()) rest = delivery := by
        rw [served, ← List.nil_append rest, ← List.flatten_nil, ← holds]
        rfl
      rw [Rules.receiveAll, same]
      rfl
  | cons frame whole ih =>
      have in_front : Decoder.front delivery.decoder.buffer =
          .frame (payload frame) (whole.flatten ++ rest) := by
        rw [holds, List.flatten_cons, List.append_assoc]
        exact front_append (are_frames frame (by simp)) _
      rcases Rules.receive_answers rules reliable of_kind frame with ⟨ends_well, of_kind_after⟩
      -- The first frame has been received, and the others are still in the buffer.
      let advanced := delivery.served (rules.receive delivery.sink frame) (whole.flatten ++ rest)
      have delivered : deliver rules { delivery with decoder := ⟨whole.flatten ++ rest⟩ }
          (Event.parse (payload frame)).1 =
            ⟨advanced, none, (rules.deliver delivery.sink (Event.parse (payload frame)).1).journal⟩ :=
        deliver_of_answers ends_well
      have unfinished_advanced : advanced.finished = false := unfinished
      have later := ih (fun other other_mem => are_frames other (List.mem_cons_of_mem _ other_mem))
        unfinished_advanced of_kind_after rfl
      have joined : advanced.served (rules.receiveAll advanced.sink whole) rest =
          delivery.served (rules.receiveAll delivery.sink (frame :: whole)) rest :=
        served_andThen ends_well (rules.receiveAll · whole) _ _
      have told : (rules.receiveAll delivery.sink (frame :: whole)).journal =
          (rules.receive delivery.sink frame).journal ++
            (rules.receiveAll advanced.sink whole).journal := by
        rw [Rules.receiveAll, SinkStep.andThen_of_ok ends_well]
        rfl
      rw [drain_eq_of_frame rules in_front delivered, if_neg (by simp [unfinished_advanced]), later,
        joined, told]
      simp [Rules.receive, SinkStep.andThen]

/-- Draining works off what is in the buffer. -/
theorem drain_serves (reliable : rules.machine.Reliable kind) (unfinished : delivery.finished = false)
    (of_kind : kind delivery.sink) {bytes : List UInt8} (holds : delivery.decoder = ⟨bytes⟩) :
    drain rules delivery = ⟨delivery.served (rules.serve delivery.sink bytes) (waiting bytes), none,
      (rules.serve delivery.sink bytes).journal⟩ := by
  rcases exists_frames bytes with ⟨rest, cut, are_frames, stops⟩
  have holds_cut : delivery.decoder = ⟨(frames bytes).flatten ++ rest⟩ := by rw [holds, ← cut]
  have received := drain_receives reliable _ are_frames unfinished of_kind holds_cut
  have ends_well := (Rules.receiveAll_answers reliable of_kind (frames bytes)).1
  generalize step_eq : rules.receiveAll delivery.sink (frames bytes) = step at received ends_well
  have serves : rules.serve delivery.sink bytes = ⟨step.state, .ok (),
      step.journal ++ (corruption? bytes).toList.map Rules.alarm, step.bumps ++ []⟩ := by
    rw [Rules.serve, step_eq, SinkStep.andThen_of_ok ends_well]
  rw [received, serves]
  rcases stops with lacks | ⟨length, declares, too_small⟩
  · have no_corruption := corruption?_of_isPartial are_frames lacks
    have in_front : Decoder.front (delivery.served step rest).decoder.buffer = .incomplete :=
      front_eq_incomplete_iff.mpr lacks
    rw [← cut] at no_corruption
    rw [drain_of_incomplete rules in_front, waiting, no_corruption, remainder_eq cut]
    simp [served]
  · have corruption := corruption?_of_isCorrupt are_frames declares too_small
    have in_front : Decoder.front (delivery.served step rest).decoder.buffer =
        .corrupt ⟨length, rest.length⟩ :=
      front_eq_corrupt_iff.mpr ⟨declares, too_small, rfl⟩
    rw [← cut] at corruption
    rw [drain_eq_of_corrupt rules in_front, waiting, corruption]
    simp [served, Rules.alarm, Decoder.empty]

/-- A piece is worked off together with what waits for it. -/
theorem feed_serves (reliable : rules.machine.Reliable kind) (unfinished : delivery.finished = false)
    (of_kind : kind delivery.sink) (piece : List UInt8) :
    let bytes := delivery.decoder.buffer ++ piece
    delivery.feed rules piece = ⟨delivery.served (rules.serve delivery.sink bytes) (waiting bytes),
      none, (rules.serve delivery.sink bytes).journal⟩ := by
  intro bytes
  let fed := { delivery with decoder := delivery.decoder.feed piece }
  have unfinished_fed : fed.finished = false := unfinished
  have of_kind_fed : kind fed.sink := of_kind
  rw [feed, if_neg (by simp [unfinished])]
  exact drain_serves reliable unfinished_fed of_kind_fed rfl

/-- The pieces of a stream are worked off one after the other, each with what waits for it. -/
theorem feedAll_serves (rules : Rules State) (reliable : rules.machine.Reliable kind)
    (unfinished : delivery.finished = false) (of_kind : kind delivery.sink)
    (pieces : List (List UInt8)) :
    let step := rules.serveAll delivery.sink (arrivals delivery.decoder.buffer pieces)
    feedAll rules delivery pieces =
      ⟨delivery.served step (waitingAfter delivery.decoder.buffer pieces), none, step.journal⟩ := by
  induction pieces generalizing delivery with
  | nil => rfl
  | cons piece pieces ih =>
      let bytes := delivery.decoder.buffer ++ piece
      rcases Rules.serve_answers reliable of_kind bytes with ⟨ends_well, of_kind_after⟩
      let advanced := delivery.served (rules.serve delivery.sink bytes) (waiting bytes)
      have first : delivery.feed rules piece =
          ⟨advanced, none, (rules.serve delivery.sink bytes).journal⟩ :=
        feed_serves reliable unfinished of_kind piece
      have unfinished_advanced : advanced.finished = false := unfinished
      have later := ih unfinished_advanced of_kind_after
      let step := rules.serveAll advanced.sink (arrivals (waiting bytes) pieces)
      let left := waitingAfter (waiting bytes) pieces
      have joined : advanced.served step left =
          delivery.served (rules.serveAll delivery.sink (bytes :: arrivals (waiting bytes) pieces))
            left :=
        served_andThen ends_well (rules.serveAll · (arrivals (waiting bytes) pieces)) _ _
      have told : (rules.serveAll delivery.sink (bytes :: arrivals (waiting bytes) pieces)).journal =
          (rules.serve delivery.sink bytes).journal ++ step.journal := by
        rw [Rules.serveAll, SinkStep.andThen_of_ok ends_well]
        rfl
      have cons_eq : feedAll rules delivery (piece :: pieces) =
          ⟨advanced.served step left, none,
            (rules.serve delivery.sink bytes).journal ++ step.journal⟩ := by
        rw [feedAll, first]
        simp only [Option.isSome_none, Bool.false_eq_true, if_false, later]
        rfl
      rw [cons_eq, joined, ← told]
      rfl

end Delivery

/-! ## What the reference does with the frames -/

namespace Rules

variable {State : Type} {rules : Rules State} {kind : State → Prop} {sink : State}

/-- A step has taken frames to a sink that remembers its texts: all were received, those that the filter
rejects are counted, the others are dropped unless they come to a text, and each text has been given to
the sink and counted by the answer. -/
structure Accounts (rules : Rules State) (whole : List (List UInt8)) (before : List String)
    (step : SinkStep (State × List String) Unit) : Prop where
  texts : step.state.2 = before ++ whole.filterMap rules.text?
  received : step.bumps.count .received = whole.length
  filtered : step.bumps.count .filtered = whole.countP rules.rejects
  dropped : step.bumps.count .dropped =
    whole.countP fun frame => (rules.text? frame).isNone && !rules.rejects frame
  written : step.bumps.count .delivered + step.bumps.count .failed =
    (whole.filterMap rules.text?).length

theorem receive_accounts (reliable : rules.machine.Reliable kind) (discreet : rules.machine.IsDiscreet)
    (of_kind : kind sink) (texts : List String) (frame : List UInt8) :
    rules.Accounts [frame] texts (rules.recording.receive (sink, texts) frame) := by
  have connected := reliable.connected sink of_kind
  cases record : (Event.parse (payload frame)).1 with
  | none =>
      constructor <;> simp [receive, SinkStep.andThen, deliver, connected, record, text?, rejects]
  | some event =>
      by_cases accepted : rules.accepts event.message = true
      case neg =>
          constructor <;>
            simp [receive, SinkStep.andThen, deliver, connected, record, text?, rejects, accepted]
      case pos =>
          cases rendered : rules.render event with
          | error fault =>
              constructor <;>
                simp [receive, SinkStep.andThen, deliver, connected, record, text?, rejects, accepted,
                  rendered, Except.toOption]
          | ok text =>
              rcases reliable.answers sink text of_kind with ⟨answer, answers⟩
              rcases (discreet sink text).counts with
                ⟨received, delivered, filtered, dropped, failed⟩
              cases answer <;>
                constructor <;>
                simp [receive, SinkStep.andThen, deliver, connected, record, text?, rejects, accepted,
                  rendered, Except.toOption, write, recording, SinkMachine.recording, answers,
                  received, delivered, filtered, dropped, failed]

theorem Accounts.andThen {earlier later : List (List UInt8)} {texts : List String}
    {first : SinkStep (State × List String) Unit}
    {next : State × List String → SinkStep (State × List String) Unit}
    (accounts : rules.Accounts earlier texts first) (ends_well : first.result = .ok ())
    (accounts_later : rules.Accounts later first.state.2 (next first.state)) :
    rules.Accounts (earlier ++ later) texts (first.andThen fun sink _ => next sink) := by
  rw [SinkStep.andThen_of_ok ends_well]
  constructor
  · simp [accounts_later.texts, accounts.texts]
  · simp [accounts_later.received, accounts.received]
  · simp [accounts_later.filtered, accounts.filtered]
  · simp [accounts_later.dropped, accounts.dropped]
  · have written := accounts.written
    have written_later := accounts_later.written
    simp only [List.count_append, List.filterMap_append, List.length_append]
    omega

theorem Accounts.congr {whole : List (List UInt8)} {texts : List String}
    {step other : SinkStep (State × List String) Unit} (accounts : rules.Accounts whole texts step)
    (state : other.state = step.state) (bumps : other.bumps = step.bumps) :
    rules.Accounts whole texts other := by
  rcases accounts with ⟨texts_eq, received, filtered, dropped, written⟩
  rw [← state] at texts_eq
  rw [← bumps] at received filtered dropped written
  exact ⟨texts_eq, received, filtered, dropped, written⟩

theorem receiveAll_accounts (reliable : rules.machine.Reliable kind)
    (discreet : rules.machine.IsDiscreet) (of_kind : kind sink) (texts : List String)
    (whole : List (List UInt8)) :
    rules.Accounts whole texts (rules.recording.receiveAll (sink, texts) whole) := by
  induction whole generalizing sink texts with
  | nil => constructor <;> simp [receiveAll, SinkStep.done]
  | cons frame whole ih =>
      have first := receive_accounts reliable discreet of_kind texts frame
      have of_kind_then : (fun state : State × List String => kind state.1) (sink, texts) := of_kind
      have answers : (rules.recording.receive (sink, texts) frame).result = .ok () ∧
          kind (rules.recording.receive (sink, texts) frame).state.1 :=
        receive_answers rules.recording reliable.recording of_kind_then frame
      exact first.andThen answers.1 (ih answers.2 _)

end Rules

namespace Delivery

variable {State : Type} {rules : Rules State} {kind : State → Prop} {sink : State}

/-- A delivery that is not finished. -/
def underway (sink : State) (stats : Stats) (before : List UInt8) : Delivery State :=
  { start sink with stats := stats, decoder := ⟨before⟩ }

/-- A piece with a corrupt header comes to what its frames come to. -/
theorem feed_of_corruption (rules : Rules State) (reliable : rules.machine.Reliable kind)
    (of_kind : kind sink) (stats : Stats) {before piece : List UInt8} {corruption : Corruption}
    (corrupt : corruption? (before ++ piece) = some corruption) :
    let received := rules.receiveAll sink (frames (before ++ piece))
    (underway sink stats before).feed rules piece =
      ⟨{ start received.state with stats := stats.bumpAll received.bumps }, none,
        received.journal ++ [Rules.alarm corruption]⟩ := by
  have of_kind_then : kind (underway sink stats before).sink := of_kind
  have fed : (underway sink stats before).feed rules piece =
      ⟨(underway sink stats before).served (rules.serve sink (before ++ piece))
        (waiting (before ++ piece)), none, (rules.serve sink (before ++ piece)).journal⟩ :=
    feed_serves reliable rfl of_kind_then piece
  have nothing_waits : waiting (before ++ piece) = [] := by rw [waiting, corrupt]
  rw [nothing_waits, Rules.serve_of_corruption reliable of_kind corrupt] at fed
  exact fed

/-- Recovery from a corrupt frame is clean and complete. Whatever pieces arrive at a delivery that is not
finished, while its sink is connected and answers what it is given:
* the delivery is the reference, which cuts each piece by itself, together with what waits for it, and
  nothing waits behind a corrupt header,
* the records taken to filter, renderer and sink are those of the frames of the reference, all of them and
  in their order, and each is counted by what became of it,
* and if the next piece has a corrupt header, it comes to what the frames in front of that come to, and
  one more entry in the journal. It leaves a fresh delivery, but for the sink and what has been
  counted. -/
theorem feedAll_recovers (rules : Rules State) (kind : State → Prop)
    (reliable : rules.machine.Reliable kind) (sink : State) (of_kind : kind sink) (texts : List String)
    (stats : Stats) (before : List UInt8) (pieces : List (List UInt8)) :
    let arriving := arrivals before pieces
    let step := rules.recording.serveAll (sink, texts) arriving
    let reached := underway step.state (stats.bumpAll step.bumps) (waitingAfter before pieces)
    feedAll rules.recording (underway (sink, texts) stats before) pieces =
        ⟨reached, none, step.journal⟩ ∧
      (rules.machine.IsDiscreet → rules.Accounts (arriving.flatMap frames) texts step) ∧
      ∀ piece corruption, corruption? (waitingAfter before pieces ++ piece) = some corruption →
        let received :=
          rules.recording.receiveAll reached.sink (frames (waitingAfter before pieces ++ piece))
        reached.feed rules.recording piece =
          ⟨{ start received.state with stats := reached.stats.bumpAll received.bumps }, none,
            received.journal ++ [Rules.alarm corruption]⟩ := by
  intro arriving step reached
  have reliable_recording := reliable.recording
  have of_kind_then : (fun state : State × List String => kind state.1) (sink, texts) := of_kind
  have answers := Rules.serveAll_answers rules.recording reliable_recording of_kind_then arriving
  refine ⟨?_, ?_, ?_⟩
  · exact feedAll_serves rules.recording reliable_recording rfl of_kind_then pieces
  · intro discreet
    rcases Rules.serveAll_frames rules.recording reliable_recording of_kind_then arriving with
      ⟨state_eq, bumps_eq⟩
    have accounts := Rules.receiveAll_accounts reliable discreet of_kind texts (arriving.flatMap frames)
    exact accounts.congr state_eq bumps_eq
  · intro piece corruption corrupt
    exact feed_of_corruption rules.recording reliable_recording answers.2 _ corrupt

/-- Everything is accepted and rendered as its message, for a sink that takes every other text. -/
def patientRules : Rules Bool :=
  ⟨fun _ => true, fun event => .ok event.message,
    ⟨fun _ => true, fun taken _ => .done (!taken) (!taken)⟩, false⟩

/-- A record and the first half of a corrupt header, its second half with a record behind it that is lost,
and another record. -/
def cutHeader : List (List UInt8) :=
  let record := [0, 0, 0, 114] ++ Event.repeatedId
  [record ++ [0, 0], [0, 3] ++ record, record]

theorem feedAll_recovers_cutHeader :
    patientRules.machine.Reliable (fun _ => True) ∧
      let step := feedAll patientRules.recording (underway (false, []) .fresh []) cutHeader
      step.delivery.sink.2 = ["a", "a"] ∧ step.journal = [Rules.alarm ⟨3, 118⟩] ∧
        step.delivery.stats.totals = ⟨2, 1, 0, 0, 1, 0, 0⟩ ∧
        step.delivery.decoder = .empty ∧ step.delivery.finished = false := by
  have reliable : patientRules.machine.Reliable fun _ => True :=
    ⟨fun _ _ => rfl, fun taken _ _ => ⟨!taken, rfl⟩, fun _ _ _ => trivial⟩
  refine ⟨reliable, ?_⟩
  have recovers := (feedAll_recovers patientRules _ reliable false trivial [] .fresh [] cutHeader).1
  rw [recovers]
  refine ⟨?_, ?_, ?_, ?_, rfl⟩ <;> decide +kernel

end Delivery

end LogRelay
