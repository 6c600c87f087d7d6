import LogRelay.Proofs.Source.Progress
import LogRelay.Proofs.Source.Request
import LogRelay.Relay

/-!
# The client from its beginning to its end

A client that has come to its end has left the delivery finished, has fed it what was read, and has
closed its connection (`Client.Stands.pumped`). A client against a script takes the same steps, and
comes to its end if whatever it may wait for comes about (`Keeper.play_reached`).
-/

namespace LogRelay

namespace Client

variable {State : Type} {options : ClientOptions} {rules : Rules State} {delivery : Delivery State}
  {client : Client State} {history : List Happening} {journal : Journal}

/-- What has become of the delivery of a client that has come to its end, and of its connection. -/
structure Pumped (options : ClientOptions) (rules : Rules State) (delivery : Delivery State)
    (history : List Happening) (client : Client State) (journal : Journal) (ending : Ending) :
    Prop where
  finished : (Relay.settle options ending client.delivery).finished = true
  /-- The calls that the history asks for were made, in their order, and no others. -/
  asked : client.delivery =
    (Delivery.play rules delivery (history.flatMap Happening.calls)).delivery
  notes : apart journal = apart (Delivery.play rules delivery (history.flatMap Happening.calls)).journal
  feeds : (history.flatMap Happening.calls).filterMap Delivery.Call.fed? =
    Happening.pieces (history.filterMap Happening.read?)
  ended : (history.flatMap Happening.calls).countP Delivery.Call.isEndStream ≤ 1
  pauses : client.pauses = client.attempts - 1
  /-- Connecting was tried until it did not fail, or as often as it may be. -/
  attempts : ∃ faults : List SystemFault,
    (ending = .returned ∧
      history.filterMap Happening.connect? = faults.map .error ++ [.ok ()] ∧
      client.attempts = faults.length + 1 ∧ client.attempts ≤ options.attempts.toNat ∧
      client.closings = 1) ∨
    (ending = .unavailable ∧
      history.filterMap Happening.connect? = faults.map .error ∧
      client.attempts = faults.length ∧ client.attempts = options.attempts.toNat ∧
      client.closings = 0 ∧
      (history.flatMap Happening.calls).countP Delivery.Call.isEndStream = 0 ∧
      (client.delivery.finished = false →
        (Relay.settle options ending client.delivery).failure =
          some (.unavailable options.path options.attempts)))

theorem Stands.pumped (stands : Stands options history client) {ending : Ending}
    (ends : client.phase = .ended ending)
    (asked : client.delivery =
        (Delivery.play rules delivery (history.flatMap Happening.calls)).delivery ∧
      apart journal =
        apart (Delivery.play rules delivery (history.flatMap Happening.calls)).journal) :
    Pumped options rules delivery history client journal ending := by
  cases stands with
  | connecting phase => simp [phase] at ends
  | streaming phase => rcases phase with phase | phase <;> simp [phase] at ends
  | unavailable phase unconnected streaming pauses spent =>
      rw [phase] at ends
      cases ends
      rcases unconnected with ⟨⟨faults, connects, attempts⟩, unused⟩
      have streamed := streaming.streamed
      refine ⟨Delivery.finished_stop _ _, asked.1, asked.2, streamed.feeds, streamed.ended, pauses,
        faults, .inr ⟨rfl, connects, attempts, spent, unused, streaming.unended, ?_⟩⟩
      intro unfinished
      simp [Relay.settle, Delivery.stop, unfinished]
  | done phase connected streamed finished closings =>
      have returned : ending = .returned := by
        rcases phase with phase | phase <;> simp [phase] at ends
        exact ends.symm
      rcases connected with ⟨⟨faults, connects, attempts⟩, allowed, pauses⟩
      rw [returned]
      exact ⟨finished, asked.1, asked.2, streamed.feeds, streamed.ended, pauses, faults,
        .inl ⟨rfl, connects, attempts, allowed, closings⟩⟩

end Client

/-! ## A client against a script -/

/-- Something comes about, and if it is a failure then one of the operating system. -/
def Turn.Comes {Value : Type} (turn : Turn Value) : Prop :=
  ∃ result, turn.outcome = some result ∧ ∀ fault, result = .error fault → fault.isSystem = true

/-- Whatever a client may wait for comes about. -/
structure Script.Comes (script : Script) : Prop where
  connects : ∀ turn ∈ script.connects, turn.Comes
  sending : script.sending.Comes
  reads : ∀ turn ∈ script.reads, turn.Comes
  closing : script.closing.Comes

/-- The client waits for its connection to be closed, or for nothing. -/
def ClientPhase.IsLate (phase : ClientPhase) : Prop :=
  ∃ ending, phase = .closing ending ∨ phase = .ended ending

namespace Keeper

open Client

variable {State Value : Type} {keeper : Keeper State} {delivery : Delivery State}
  {client : Client State}

/-- What comes about is a step of the client, perhaps after somebody has stopped the delivery. -/
theorem exists_live {turn : Turn Value} (comes : turn.Comes)
    (step : Client State → Except SystemFault Value → Client State × Journal)
    (reached : Reached keeper.options keeper.rules delivery client) :
    ∃ before result, (keeper.live client turn step).1 = (step before result).1 ∧
      before.phase = client.phase ∧ Reached keeper.options keeper.rules delivery before ∧
        ∀ fault, result = .error fault → fault.isSystem = true := by
  rcases comes with ⟨result, outcome, tame⟩
  cases stops : turn.stops with
  | false => exact ⟨client, result, by simp [live, outcome, stops], rfl, reached, tame⟩
  | true =>
      exact ⟨client.stop, result, by simp [live, outcome, stops], rfl,
        reached.step .stopped trivial, tame⟩

theorem phase_onConnect (options : ClientOptions) (client : Client State)
    (result : Except SystemFault Unit) :
    ((client.onConnect options result).1.phase = .connecting ∧ result ≠ .ok ()) ∨
      (client.onConnect options result).1.phase = .sending ∨
        (client.onConnect options result).1.phase.IsLate := by
  cases result with
  | ok made =>
      right
      simp only [onConnect]
      split
      · exact .inl rfl
      · exact .inr ⟨_, .inl rfl⟩
  | error fault =>
      simp only [onConnect]
      split
      · split
        · exact .inl ⟨rfl, by simp⟩
        · exact .inr (.inr ⟨_, .inr rfl⟩)
      · exact .inr (.inr ⟨_, .inr rfl⟩)

theorem phase_proceed (client : Client State) :
    client.proceed.phase = .reading ∨ client.proceed.phase.IsLate := by
  rw [proceed]
  split
  · exact .inr ⟨_, .inl rfl⟩
  · exact .inl rfl

theorem phase_onSent (rules : Rules State) (client : Client State)
    (result : Except SystemFault Unit) :
    (client.onSent rules result).1.phase = .reading ∨
      (client.onSent rules result).1.phase.IsLate := by
  cases result with
  | ok sent => exact phase_proceed client
  | error fault =>
      simp only [onSent]
      split <;> exact .inr ⟨_, .inl rfl⟩

theorem phase_onRead (rules : Rules State) (client : Client State)
    (result : Except SystemFault (List UInt8)) :
    ((client.onRead rules result).1.phase = .reading ∧ result ≠ .ok []) ∨
      (client.onRead rules result).1.phase.IsLate := by
  rcases result with fault | (_ | ⟨byte, bytes⟩)
  · simp only [onRead]
    split <;> exact .inr ⟨_, .inl rfl⟩
  · exact .inr ⟨_, .inl rfl⟩
  · simp only [onRead]
    split
    · exact .inr ⟨_, .inl rfl⟩
    · rcases phase_proceed { client with
          delivery := (client.delivery.feed rules (byte :: bytes)).delivery } with reading | late
      · exact .inl ⟨reading, by simp⟩
      · exact .inr late

theorem playConnects_reached {turns : List (Turn Unit)} (come : ∀ turn ∈ turns, turn.Comes)
    (waits : client.phase = .connecting)
    (reached : Reached keeper.options keeper.rules delivery client) :
    Reached keeper.options keeper.rules delivery (keeper.playConnects client turns).1 ∧
      ((keeper.playConnects client turns).1.phase = .sending ∨
        (keeper.playConnects client turns).1.phase.IsLate) := by
  -- When no turns are left, a connection is made, so the client does not wait for one any longer.
  induction turns generalizing client with
  | nil =>
      refine ⟨reached.step (.connected waits (.ok ())) (by simp [Happening.Tame]), ?_⟩
      rcases phase_onConnect keeper.options client (.ok ()) with ⟨-, failed⟩ | settled
      · exact absurd rfl failed
      · exact settled
  | cons turn turns ih =>
      have comes := come turn List.mem_cons_self
      rcases exists_live comes (Client.onConnect keeper.options) reached with
        ⟨before, result, live_eq, phase_eq, reached_before, tame⟩
      have reached_after := reached_before.step (.connected (phase_eq.trans waits) result) tame
      rw [← live_eq] at reached_after
      simp only [playConnects]
      split
      case isTrue again =>
        simp only [Bool.and_eq_true, beq_iff_eq] at again
        apply ih _ again.2 reached_after
        intro other other_mem
        exact come other (List.mem_cons_of_mem _ other_mem)
      case isFalse no_more =>
        refine ⟨reached_after, ?_⟩
        rcases comes with ⟨outcome, outcome_eq, -⟩
        simp [outcome_eq] at no_more
        rcases phase_onConnect keeper.options before result with ⟨again, -⟩ | settled
        · rw [← live_eq] at again
          exact absurd again no_more
        · rwa [← live_eq] at settled

theorem playReads_reached {turns : List (Turn (List UInt8))} (come : ∀ turn ∈ turns, turn.Comes)
    (waits : client.phase = .reading)
    (reached : Reached keeper.options keeper.rules delivery client) :
    Reached keeper.options keeper.rules delivery (keeper.playReads client turns).client ∧
      (keeper.playReads client turns).client.phase.IsLate := by
  induction turns generalizing client with
  | nil =>
      refine ⟨reached.step (.read waits (.ok [])) (by simp [Happening.Tame]), ?_⟩
      rcases phase_onRead keeper.rules client (.ok []) with ⟨-, ended⟩ | late
      · exact absurd rfl ended
      · exact late
  | cons turn turns ih =>
      have comes := come turn List.mem_cons_self
      rcases exists_live comes (Client.onRead keeper.rules) reached with
        ⟨before, result, live_eq, phase_eq, reached_before, tame⟩
      have reached_after := reached_before.step (.read (phase_eq.trans waits) result) tame
      rw [← live_eq] at reached_after
      simp only [playReads]
      split
      case isTrue again =>
        simp only [Bool.and_eq_true, beq_iff_eq] at again
        apply ih _ again.2 reached_after
        intro other other_mem
        exact come other (List.mem_cons_of_mem _ other_mem)
      case isFalse no_more =>
        refine ⟨reached_after, ?_⟩
        rcases comes with ⟨outcome, outcome_eq, -⟩
        simp [outcome_eq] at no_more
        rcases phase_onRead keeper.rules before result with ⟨again, -⟩ | late
        · rw [← live_eq] at again
          exact absurd again no_more
        · rwa [← live_eq] at late

theorem connect_reached (keeper : Keeper State) (delivery : Delivery State) {script : Script}
    (comes : script.Comes) :
    let played := keeper.connect (.start keeper.options delivery) script
    Reached keeper.options keeper.rules delivery played.client ∧
      (played.client.phase = .sending ∨ played.client.phase.IsLate) ∧ played.unread = script.reads := by
  have reached : Reached keeper.options keeper.rules delivery (.start keeper.options delivery) :=
    ⟨[], [], .start, by simp⟩
  simp only [connect]
  split
  case isTrue waits =>
    rcases playConnects_reached comes.connects waits reached with ⟨reached_after, settled⟩
    exact ⟨reached_after, settled, rfl⟩
  case isFalse hopeless =>
    refine ⟨reached, .inr ⟨.unavailable, .inr ?_⟩, rfl⟩
    simp only [start] at hopeless ⊢
    split at hopeless
    · exact absurd rfl hopeless
    · rename_i none_allowed
      rw [if_neg none_allowed]

theorem send_reached {played : Played State} {script : Script} (comes : script.Comes)
    (reached : Reached keeper.options keeper.rules delivery played.client)
    (settled : played.client.phase = .sending ∨ played.client.phase.IsLate) :
    Reached keeper.options keeper.rules delivery (keeper.send played script).client ∧
      ((keeper.send played script).client.phase = .reading ∨
        (keeper.send played script).client.phase.IsLate) ∧
      (keeper.send played script).unread = played.unread := by
  simp only [send]
  split
  case isTrue waits =>
    rcases exists_live comes.sending (Client.onSent keeper.rules) reached with
      ⟨before, result, live_eq, phase_eq, reached_before, tame⟩
    simp only [live_eq]
    exact ⟨reached_before.step (.sent (phase_eq.trans waits) result) tame,
      phase_onSent keeper.rules before result, trivial⟩
  case isFalse elsewhere =>
    rcases settled with waits | late
    · exact absurd waits elsewhere
    · exact ⟨reached, .inr late, rfl⟩

theorem read_reached {played : Played State} (come : ∀ turn ∈ played.unread, turn.Comes)
    (reached : Reached keeper.options keeper.rules delivery played.client)
    (settled : played.client.phase = .reading ∨ played.client.phase.IsLate) :
    Reached keeper.options keeper.rules delivery (keeper.read played).client ∧
      (keeper.read played).client.phase.IsLate := by
  simp only [read]
  split
  case isTrue waits => exact playReads_reached come waits reached
  case isFalse elsewhere =>
    rcases settled with waits | late
    · exact absurd waits elsewhere
    · exact ⟨reached, late⟩

theorem close_reached {played : Played State} {script : Script} (comes : script.Comes)
    (reached : Reached keeper.options keeper.rules delivery played.client)
    (late : played.client.phase.IsLate) :
    Reached keeper.options keeper.rules delivery (keeper.close played script).client ∧
      ∃ ending, (keeper.close played script).client.phase = .ended ending := by
  rcases late with ⟨ending, waits | ended⟩
  · rcases exists_live comes.closing
      (fun client result => (client.onClosed ending result, [])) reached with
        ⟨before, result, live_eq, phase_eq, reached_before, tame⟩
    simp only [close, waits, live_eq]
    refine ⟨reached_before.step (.closed (phase_eq.trans waits) result) tame, ?_⟩
    cases result <;> exact ⟨_, rfl⟩
  · simp only [close, ended]
    exact ⟨reached, ending, rfl⟩

/-- Against a script that leaves nothing open, a client comes to its end. -/
theorem play_reached (keeper : Keeper State) (delivery : Delivery State) {script : Script}
    (comes : script.Comes) :
    Reached keeper.options keeper.rules delivery (keeper.play delivery script).client ∧
      ∃ ending, (keeper.play delivery script).client.phase = .ended ending := by
  rcases connect_reached keeper delivery comes with ⟨connected, settled, unread⟩
  rcases send_reached comes connected settled with ⟨sent, settled, unread_still⟩
  have come : ∀ turn ∈ (keeper.send (keeper.connect (.start keeper.options delivery) script)
      script).unread, turn.Comes := by
    rw [unread_still, unread]
    exact comes.reads
  rcases read_reached come sent settled with ⟨read, late⟩
  exact close_reached comes read late

/-- A client that has come to its end without being cancelled has left its delivery finished, or
finishes it because the source could not be reached. It has fed the delivery just what was read before
the stream ended, has ended it once at most, has tried to connect until it could or as often as it may,
with a pause between two attempts, and has closed its connection once. No read is begun for a delivery
that is finished. Against a script that leaves nothing open, a client comes to such an end. -/
theorem runs_pumped (options : ClientOptions) (natural : 0 ≤ options.lines)
    (short : options.lines < 0x100000000) (rules : Rules State)
    (harmless : rules.Harmless)
    (delivery : Delivery State) :
    (∀ history client journal, Runs options rules delivery history client journal →
      (∀ happening ∈ history, happening.Tame) →
        (client.phase = .connecting → client.pauses = client.attempts) ∧
        (∀ ending, client.phase = .ended ending →
          Pumped options rules delivery history client journal ending) ∧
        ∀ happening after notes, Step options rules client happening after notes →
          happening ≠ .stopped → after.phase = .reading → after.delivery.finished = false) ∧
    ∀ onStop (script : Script), script.Comes →
      ∃ history journal ending,
        Runs options rules delivery history
          ((⟨options, rules, onStop⟩ : Keeper State).play delivery script).client journal ∧
        (∀ happening ∈ history, happening.Tame) ∧
        ((⟨options, rules, onStop⟩ : Keeper State).play delivery script).client.phase =
          .ended ending := by
  constructor
  · intro history client journal runs tame
    have requested := Request.exists_encode natural short options.follow
    have stands := runs.stands requested harmless tame
    refine ⟨?_, ?_, ?_⟩
    · intro waits
      exact (stands.of_connecting waits).2.2.1
    · intro ending ends
      exact stands.pumped ends (runs.asks harmless tame)
    · intro happening after notes step begins reading
      exact step.begins_read begins reading
  · intro onStop script comes
    rcases play_reached ⟨options, rules, onStop⟩ delivery comes with
      ⟨⟨history, journal, runs, tame⟩, ending, ends⟩
    exact ⟨history, journal, ending, runs, tame, ends⟩

/-- The source can be reached at the second attempt, and the delivery is stopped while its second piece
is awaited. -/
def lateSource : Script :=
  { connects := [.fails .noSuchEntry]
    reads := [.gives ([0, 0, 0, 114] ++ Event.repeatedId), ⟨true, some (.ok [0])⟩] }

theorem runs_pumped_lateSource :
    let keeper : Keeper (Bool × List String) :=
      ⟨⟨"/var/run/logd.sock", 5, false, 3, Double.one⟩, Delivery.plainRules.recording, []⟩
    lateSource.Comes ∧ (keeper.play (.start (false, [])) lateSource).client.phase = .ended .returned ∧
      ∃ history journal, Pumped keeper.options keeper.rules (.start (false, [])) history
        (keeper.play (.start (false, [])) lateSource).client journal .returned := by
  intro keeper
  have comes : lateSource.Comes := by
    constructor
    · intro turn turn_mem
      rw [List.mem_singleton.mp turn_mem]
      refine ⟨_, rfl, ?_⟩
      intro fault failed
      cases failed
      decide
    · exact ⟨_, rfl, by simp⟩
    · intro turn turn_mem
      simp only [lateSource, List.mem_cons, List.not_mem_nil, or_false] at turn_mem
      rcases turn_mem with rfl | rfl <;> exact ⟨_, rfl, by simp⟩
    · exact ⟨_, rfl, by simp⟩
  have contained : Delivery.plainRules.machine.Contained := by
    intro taken text fault
    cases taken <;> simp [Delivery.plainRules, Delivery.takesOne, SinkStep.failed, SinkStep.done]
  have harmless : Delivery.plainRules.recording.Harmless := by
    intro delivery chunk
    exact (Delivery.perform_serves delivery contained (.feed chunk)).1
  have ends : (keeper.play (.start (false, [])) lateSource).client.phase = .ended .returned := by
    decide +kernel
  have pumped := runs_pumped keeper.options (by decide) (by decide) keeper.rules harmless
    (.start (false, []))
  rcases pumped.2 keeper.onStop lateSource comes with ⟨history, journal, ending, runs, tame, -⟩
  exact ⟨comes, ends, history, journal, (pumped.1 _ _ _ runs tame).2.1 _ ends⟩

end Keeper

end LogRelay
