import LogRelay.Proofs.Relay.Prepare

/-!
# When a run releases its sink

A run that has opened a sink and comes to an end closes the sink once and ends its reports, except in
three cases: its pattern makes no filter, its client ends in a failure of its own, or closing the sink
fails while reports go on. None of them comes about with calls that fail by the operating system only, a
pattern that makes a filter and a number of lines that can be asked for.
-/

namespace LogRelay

namespace RelayRun

/-- The sink has been closed once, and no reports go on. -/
def Released (run : RelayRun) : Prop :=
  run.closings = 1 ∧ run.reporter.waiting = 0

end RelayRun

namespace Relay

variable {config : Config} {world : World} {session : Session} {played : Played Sink.State}
  {finishers : List Finisher} {client : Client Sink.State}

/-- A run with any client. -/
def runWith (config : Config) (world : World) (play : Session → Played Sink.State) : RelayRun :=
  match prepare config world with
  | .ok session => conclude session (play session)
  | .error run => run

/-- The client has ended in an orderly way, and closing the sink does not keep reports from ending. -/
def Orderly (session : Session) (played : Played Sink.State) : Prop :=
  (∃ ending, played.client.phase = .ended ending ∧ ending.IsOrderly) ∧
    ((Sink.close played.client.delivery.sink).result = .ok () ∨ session.reporter.waiting = 0)

/-! ## Closing and ending reports -/

theorem closings_release (run : RelayRun) (delivery : Delivery Sink.State) :
    (release run delivery).closings = run.closings + 1 := by
  rw [release]
  split <;> rfl

theorem reporter_release (run : RelayRun) (delivery : Delivery Sink.State) :
    (release run delivery).reporter =
      if (Sink.close delivery.sink).result = .ok () then run.reporter.stop else run.reporter := by
  rw [release]
  split
  · rename_i fault fails
    rw [if_neg (by simp [fails])]
  · rename_i ends_well
    rw [if_pos ends_well]

theorem result_release (run : RelayRun) {delivery : Delivery Sink.State}
    (ends_well : (Sink.close delivery.sink).result = .ok ()) :
    (release run delivery).result =
      some (delivery.failure.elim (.ok ()) fun failure => .error (.delivery failure)) := by
  cases failure : delivery.failure <;> simp [release, ends_well, failure]

theorem result_release_congr (run other : RelayRun) (delivery : Delivery Sink.State) :
    (release run delivery).result = (release other delivery).result := by
  simp only [release]
  split <;> rfl

theorem waiting_stop {reporter : Reporter} (tied : reporter.loose = 0) :
    reporter.stop.waiting = 0 := by
  simp [Reporter.waiting, Reporter.stop, tied]

theorem exists_ending_of_result (ends : (conclude session played).result.isSome) :
    ∃ ending, played.client.phase = .ended ending ∧
      (settle session.keeper.options ending played.client.delivery).finished = true := by
  rw [conclude] at ends
  split at ends
  · rename_i ending ended
    simp only at ends
    split at ends
    · rename_i finished
      exact ⟨ending, ended, finished⟩
    · cases ends
  · cases ends

theorem conclude_of_orderly {ending : Ending} (ended : played.client.phase = .ended ending)
    (finished : (settle session.keeper.options ending played.client.delivery).finished = true)
    (orderly : ending.IsOrderly) :
    conclude session played = release (afterClient session played)
      (settle session.keeper.options ending played.client.delivery) := by
  simp only [conclude, ended, finished, if_true]
  cases ending with
  | unfit fault | escaped fault => cases orderly
  | returned | unavailable | cancelled => rfl

/-- A client that ends in a failure of its own leaves the sink open. -/
theorem closings_of_disorderly (session : Session) {ending : Ending}
    (ended : played.client.phase = .ended ending) (disorderly : ¬ending.IsOrderly) :
    (conclude session played).closings = 0 := by
  simp only [conclude, ended]
  cases ending with
  | unfit fault | escaped fault => split <;> rfl
  | returned | unavailable | cancelled => exact absurd trivial disorderly

theorem released_conclude_iff (tied : session.reporter.loose = 0)
    (ends : (conclude session played).result.isSome) :
    (conclude session played).Released ↔ Orderly session played := by
  rcases exists_ending_of_result ends with ⟨ending, ended, finished⟩
  by_cases orderly : ending.IsOrderly
  · have is_end : ∃ ending, played.client.phase = .ended ending ∧ ending.IsOrderly :=
      ⟨ending, ended, orderly⟩
    rw [conclude_of_orderly ended finished orderly, RelayRun.Released, closings_release,
      reporter_release, Client.sink_settle, Orderly]
    by_cases ends_well : (Sink.close played.client.delivery.sink).result = .ok ()
    · have stopped : session.reporter.stop.waiting = 0 := waiting_stop tied
      simpa [ends_well, is_end, afterClient] using stopped
    · simp [ends_well, is_end, afterClient]
  · have left := closings_of_disorderly session ended orderly
    constructor
    · rintro ⟨once, -⟩
      omega
    · rintro ⟨⟨other, ended_so, is_orderly⟩, -⟩
      cases ended.symm.trans ended_so
      exact absurd is_orderly orderly

/-- It does not matter when a source that cannot be reached finishes the delivery. -/
theorem result_conclude_settled (session : Session) (client : Client Sink.State)
    (unread : List (Turn (List UInt8))) (journal : Journal) :
    (conclude session ⟨client.settled session.keeper.options, unread, journal⟩).result =
      (conclude session ⟨client, unread, journal⟩).result := by
  cases phase : client.phase with
  | connecting | sending | reading | closing ending =>
      rw [Client.settled_of_waits (by simp [ClientPhase.Waits, phase])]
  | ended ending =>
      simp only [Client.settled, phase, conclude, Client.settle_settle]
      split
      · cases ending with
        | unfit fault | escaped fault => rfl
        | returned | unavailable | cancelled => exact result_release_congr _ _ _
      · rfl

/-- A client whose calls fail by the operating system only comes to an orderly end. -/
theorem Runs.orderly (ready : Ready session) (runs : Runs session finishers client) {ending : Ending}
    (ended : client.phase = .ended ending) :
    client.delivery.finished = true ∧ ending.IsOrderly ∧
      (Sink.close client.delivery.sink).result = .ok () := by
  have standing := runs.standing ready
  rcases standing.ends ending (.inr ended) with ⟨some_finisher, orderly⟩
  exact ⟨standing.marked.finished_of_ne_nil some_finisher, orderly, (Sink.close_tame standing.sink).1⟩

theorem Runs.result_conclude (ready : Ready session) (runs : Runs session finishers client)
    {ending : Ending} (ended : client.phase = .ended ending) (unread : List (Turn (List UInt8)))
    (journal : Journal) :
    (conclude session ⟨client, unread, journal⟩).result =
      some (client.delivery.failure.elim (.ok ()) fun failure => .error (.delivery failure)) := by
  rcases runs.orderly ready ended with ⟨finished, orderly, ends_well⟩
  have same := Client.settle_of_finished session.keeper.options ending finished
  rw [conclude_of_orderly ended (by rw [same]; exact finished) orderly, same]
  exact result_release _ ends_well

theorem Runs.released (ready : Ready session) (tied : session.reporter.loose = 0)
    (runs : Runs session finishers client) {ending : Ending} (ended : client.phase = .ended ending)
    (unread : List (Turn (List UInt8))) (journal : Journal) :
    (conclude session ⟨client, unread, journal⟩).Released := by
  rcases runs.orderly ready ended with ⟨-, orderly, ends_well⟩
  apply (released_conclude_iff tied _).mpr
  · exact ⟨⟨ending, ended, orderly⟩, .inl ends_well⟩
  · rw [runs.result_conclude ready ended]
    rfl

/-- A world in which nothing fails. -/
def quietWorld : World := .ofDisk .empty 7

end Relay

end LogRelay
