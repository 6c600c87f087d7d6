import LogRelay.Proofs.Delivery.Records
import LogRelay.Proofs.Sink.Rotation

/-!
# Files that cannot be opened again

A rotation may find that the path cannot be opened. Then nothing has been written, what was at the
path is there or at the old one, and nothing is counted. The sink is closed and refuses every text
without a call until its file has been opened again (`Idle.closed`). The delivery is finished with
that failure, as the record that led to it is the last one that it takes (`serve_unopened`).
-/

namespace LogRelay

namespace FileSink

open SinkStep

variable {sink : FileSink} {disk : Disk}

/-! ## What is left behind -/

/-- No file has changed, and what was at the path of a sink is there or at the old one. -/
structure LeavesIntact (sink : FileSink) (disk after : Disk) : Prop where
  files : after.files = disk.files
  stays : ∀ fault, (sink.released disk).rename sink.path sink.oldPath = .error fault →
    after.entries = disk.entries
  moves : ∀ between, (sink.released disk).rename sink.path sink.oldPath = .ok between →
    ∃ here there node, disk.target sink.path = .ok here ∧ disk.target sink.oldPath = .ok there ∧
      disk.node? here.location = some node ∧ after.node? there.location = some node ∧
      (disk.Sound → ∀ below,
        after.node? (there.location ++ below) = disk.node? (here.location ++ below))

theorem Cleared.leavesIntact {between : Disk} {journal : Journal}
    (cleared : Cleared sink disk between journal) : LeavesIntact sink disk between := by
  rcases released_same sink disk with ⟨entries, files, next⟩
  cases cleared with
  | moved renames =>
      rcases Disk.rename_eq_ok renames with
        ⟨here, there, node, reaches, reaches_there, is_here, renamed⟩
      refine ⟨by rw [renamed.files, files], ?_, ?_⟩
      · intro fault fails
        rw [renames] at fails
        cases fails
      · intro other renames_other
        rw [renames] at renames_other
        cases renames_other
        have arrives := renamed.arrives is_here
        have arrives_below := fun sound => renamed.arrives_below sound is_here
        rw [Disk.target_congr entries] at reaches reaches_there
        simp only [Disk.node?_congr entries] at is_here arrives_below
        refine ⟨here, there, node, reaches, reaches_there, is_here, arrives, ?_⟩
        intro sound
        exact arrives_below (sound.congr entries files (Nat.le_of_eq next.symm))
  | stayed fails warns =>
      refine ⟨files, fun _ _ => entries, ?_⟩
      intro other renames
      rw [fails] at renames
      cases renames

/-- A file that cannot be opened ends a demand before anything is counted. -/
theorem serve_of_unopened (connected : sink.isConnected = true) (demand : Demand) {fault : OpenFault}
    (fails : (demand.serve (sink, disk)).result = .error (.unopened fault)) :
    ∃ between journal, Cleared sink disk between journal ∧
      demand.serve (sink, disk) =
        ⟨(sink.shut, between), .error (.unopened fault), journal, []⟩ := by
  rcases serve_cases connected demand with ⟨-, quiet⟩ | ⟨-, last, quiet, serves⟩
  · exact absurd fails (quiet.opened fault)
  rw [serves] at fails ⊢
  rcases rotate_cases sink disk with ⟨other, escapes, -⟩ | ⟨between, journal, cleared, ends⟩
  · rw [andThen_of_error escapes] at fails
    cases fails
  · refine ⟨between, journal, cleared, ?_⟩
    rcases ends with ⟨other, opening, -, rotated⟩ | ⟨after, descriptor, -, rotated⟩
    · rw [rotated] at fails ⊢
      cases fails
      rfl
    · rw [rotated] at fails
      exact absurd fails ((quiet _).opened fault)

/-! ## Until it is opened again -/

/-- What a sink comes to as long as its file is not opened, whatever others do to the disk. -/
inductive Idle (start : State) : State → Prop where
  | start : Idle start start
  | writes {state : State} (idle : Idle start state) (text : String) :
      Idle start (write state text).state
  | closes {state : State} (idle : Idle start state) : Idle start (close state).state
  | fails_to_open {state : State} (idle : Idle start state) {fault : SinkFault}
      (fails : (openFile state).result = .error fault) : Idle start (openFile state).state
  | fails_to_rotate {state : State} (idle : Idle start state) {fault : SinkFault}
      (fails : (rotate state).result = .error fault) : Idle start (rotate state).state
  | disturbed {held : FileSink} {before : Disk} (idle : Idle start (held, before)) (after : Disk) :
      Idle start (held, after)

theorem write_of_closed {state : State} (closed : state.1.isConnected = false) (text : String) :
    write state text = .done state false := by
  rw [write, closed]
  rfl

theorem isConnected_shut (sink : FileSink) : sink.shut.isConnected = false := rfl

theorem close_stays_closed {state : State} (closed : state.1.isConnected = false) :
    (close state).state.1.isConnected = false := by
  rcases state with ⟨sink, disk⟩
  rcases close_cases sink disk with ⟨fault, -, stays⟩ | closes
  · rwa [stays]
  · rw [closes]
    exact isConnected_shut sink

theorem openFile_stays_closed {state : State} (closed : state.1.isConnected = false)
    {fault : SinkFault} (fails : (openFile state).result = .error fault) :
    (openFile state).state.1.isConnected = false := by
  simp only [openFile] at fails ⊢
  split at fails
  · cases fails
  · exact closed

theorem rotate_stays_closed {state : State} (closed : state.1.isConnected = false)
    {fault : SinkFault} (fails : (rotate state).result = .error fault) :
    (rotate state).state.1.isConnected = false := by
  rcases state with ⟨sink, disk⟩
  rcases rotate_cases sink disk with ⟨other, -, stays | shut⟩ | ⟨between, journal, -, ends⟩
  · rwa [stays]
  · rw [shut]
    exact isConnected_shut sink
  · rcases ends with ⟨other, opening, -, rotated⟩ | ⟨after, descriptor, -, rotated⟩
    · rw [rotated]
      exact isConnected_shut sink
    · rw [rotated] at fails
      cases fails

/-- A sink stays closed as long as its file is not opened. -/
theorem Idle.closed {start state : State} (idle : Idle start state)
    (closed : start.1.isConnected = false) : state.1.isConnected = false := by
  induction idle with
  | start => exact closed
  | writes idle text ih =>
      rw [write_of_closed ih]
      exact ih
  | closes idle ih => exact close_stays_closed ih
  | fails_to_open idle fails ih => exact openFile_stays_closed ih fails
  | fails_to_rotate idle fails ih => exact rotate_stays_closed ih fails
  | disturbed idle after ih => exact ih

/-- A file that cannot be opened again leaves everything as it was, but for the rename, and the sink
closed. The delivery that it meets is finished by it. -/
theorem serve_unopened (connected : sink.isConnected = true) (demand : Demand) {fault : OpenFault}
    (fails : (demand.serve (sink, disk)).result = .error (.unopened fault)) :
    let step := demand.serve (sink, disk)
    LeavesIntact sink disk step.state.2 ∧ step.bumps = [] ∧ step.state.1.isConnected = false ∧
      (∀ state, Idle step.state state → ∀ text, write state text = .done state false) ∧
      ∀ (rules : Rules State) (delivery : Delivery State) chunk text, demand = .write text →
        rules.machine = machine → delivery.finished = false →
        Delivery.Brings rules delivery chunk (sink, disk) text →
        (delivery.feed rules chunk).escaped = none ∧
          (delivery.feed rules chunk).delivery.finished = true ∧
          (delivery.feed rules chunk).delivery.failure = some (.unopened fault) ∧
          (delivery.feed rules chunk).delivery.sink = step.state := by
  intro step
  rcases serve_of_unopened connected demand fails with ⟨between, journal, cleared, serves⟩
  have closed : step.state.1.isConnected = false := by
    simp only [step, serves]
    exact isConnected_shut sink
  refine ⟨?_, ?_, closed, ?_, ?_⟩
  · simp only [step, serves]
    exact cleared.leavesIntact
  · simp only [step, serves]
  · intro state idle text
    exact write_of_closed (idle.closed closed) text
  · rintro rules delivery chunk text rfl uses unfinished brings
    have connected_rules : rules.machine.isConnected (sink, disk) = true := by
      rw [uses]
      exact connected
    have fails_rules : (rules.machine.write (sink, disk) text).result = .error (.unopened fault) := by
      rw [uses]
      exact fails
    have ends := Delivery.feed_of_brings unfinished brings connected_rules fails_rules
    rw [uses] at ends
    exact ends

/-- The disk `openLog`, on which no file can be opened any more. -/
def refusedLog : Disk :=
  { openLog with trouble := { Trouble.none with
      openAppend := fun _ => some (.numbered 13 "Permission denied") } }

/-- The text of every record is one character. -/
def singleRules : Rules State := ⟨fun _ => true, fun _ => .ok "x", machine, false⟩

theorem serve_unopened_refusedLog :
    (Demand.serve (⟨"log", 4, some 2⟩, refusedLog) (.write "x")).result =
        .error (.unopened ⟨13, "failed to open log: Permission denied"⟩) ∧
      (∃ between, (released ⟨"log", 4, some 2⟩ refusedLog).rename "log" "log.old" = .ok between) ∧
      ∃ after, LeavesIntact ⟨"log", 4, some 2⟩ refusedLog after ∧
        let ended := (Delivery.start (⟨"log", 4, some 2⟩, refusedLog)).feed singleRules
          ([0, 0, 0, 114] ++ Event.repeatedId)
        ended.delivery.sink = (⟨"log", 4, none⟩, after) ∧
          ended.delivery.failure =
            some (.unopened ⟨13, "failed to open log: Permission denied"⟩) := by
  have fails : (Demand.serve (⟨"log", 4, some 2⟩, refusedLog) (.write "x")).result =
      .error (.unopened ⟨13, "failed to open log: Permission denied"⟩) := by
    decide
  rcases serve_unopened rfl (.write "x") fails with ⟨intact, -, -, -, ends⟩
  have arrive : Stream.records ([] ++ ([0, 0, 0, 114] ++ Event.repeatedId)) =
      [] ++ [some ⟨"a", 9, 14, 1, 1000⟩] := by decide +kernel
  have brings : Delivery.Brings singleRules (Delivery.start (⟨"log", 4, some 2⟩, refusedLog))
      ([0, 0, 0, 114] ++ Event.repeatedId) (⟨"log", 4, some 2⟩, refusedLog) "x" :=
    ⟨arrive, rfl, rfl, rfl, rfl⟩
  rcases ends singleRules _ _ "x" rfl rfl rfl brings with ⟨-, -, failure, reaches⟩
  exact ⟨fails, ⟨_, rfl⟩, _, intact, reaches, failure⟩

end FileSink

end LogRelay
