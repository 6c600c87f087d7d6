import LogRelay.Program
import LogRelay.Proofs.Options.Build
import LogRelay.Proofs.Relay.Release
import LogRelay.Yaml.Reader

/-!
# The exit status

What finishes the delivery first decides how the program ends: with status 0 for the end of the stream
and for a request to stop, with status 1 for a file that cannot be opened and for a source that cannot
be reached. A configuration that is refused ends it with status 2.
-/

namespace LogRelay

/-- The exit status for what finishes a delivery. -/
def Finisher.status : Finisher → Nat
  | ended | requested => 0
  | unopened _ | unavailable => 1

/-- A configuration in texts has the same options that hold no texts from outside. -/
theorem WordedConfig.plain_of_config? {worded : WordedConfig} {config : Config}
    (are_texts : worded.config? = some config) : config.toPlainOptions = worded.toPlainOptions := by
  rw [config?] at are_texts
  split at are_texts
  · cases are_texts
    rfl
  · cases are_texts

namespace Program

/-- How the program ends when its client has come to a phase and these have finished the delivery, the
first one first. -/
def Ends (finishers : List Finisher) (phase : ClientPhase) (ending : ProgramEnd) : Prop :=
  match phase with
  | .ended _ => ∃ first later, finishers = first :: later ∧ ending = .status first.status
  | .connecting | .sending | .reading | .closing _ => ending = .never

variable {session : Session} {finishers : List Finisher} {client : Client Sink.State}

theorem endOf_congr {run other : RelayRun} (same : run.result = other.result) :
    (endOf run).1 = (endOf other).1 := by
  simp only [endOf, same]

/-- The first of what finishes the delivery decides. -/
theorem ends_of_runs (ready : Relay.Ready session) (runs : Relay.Runs session finishers client)
    (unread : List (Turn (List UInt8))) (journal : Journal) :
    Ends finishers client.phase (endOf (Relay.conclude session ⟨client, unread, journal⟩)).1 := by
  cases phase : client.phase with
  | connecting | sending | reading | closing ending =>
      simp [Ends, Relay.conclude, phase, endOf, Relay.afterClient]
  | ended ending =>
      have standing := runs.standing ready
      have result := runs.result_conclude ready phase unread journal
      rcases standing.ends ending (.inr phase) with ⟨some_finisher, -⟩
      rcases List.exists_cons_of_ne_nil some_finisher with ⟨first, later, rfl⟩
      refine ⟨first, later, rfl, ?_⟩
      have failure : client.delivery.failure = first.failure? session.keeper.options :=
        standing.marked.failure
      rw [failure] at result
      cases first <;> simp [endOf, result, Finisher.failure?, Finisher.status, Failure.isReported]

/-- What the program comes to is decided by its configuration, by the opening of its log file and by
what finishes its delivery first. -/
theorem run_decided (reader : DocumentReader) (world : World) (environment : Environment)
    (arguments : List Wording) :
    (∀ fault message journal,
      Config.load reader world.disk.contents environment arguments =
        (.error (.options fault), journal) →
      fault.message? = some message →
        ∀ script, (run reader world environment arguments script).ending = .status 2) ∧
    ∀ worded config journal,
      Config.load reader world.disk.contents environment arguments = (.ok worded, journal) →
      worded.config? = some config → Relay.Fit config world →
        (Relay.Unopenable config world →
          ∀ script, (run reader world environment arguments script).ending = .status 1) ∧
        (¬Relay.Unopenable config world → ∃ session, Relay.prepare config world = .ok session ∧
          (∀ finishers client, Relay.Runs session finishers client → ∀ unread journal,
            Ends finishers client.phase
              (endOf (Relay.conclude session ⟨client, unread, journal⟩)).1) ∧
          ∀ script : Script, script.Tame →
            ∃ finishers, Relay.Runs session finishers
                ((session.keeper.play (.start session.sink) script).client.settled
                  session.keeper.options) ∧
              Ends finishers (session.keeper.play (.start session.sink) script).client.phase
                (run reader world environment arguments script).ending) := by
  constructor
  · intro fault message journal loaded refused script
    simp [run, loaded, refuse, refused]
  · intro worded config journal loaded are_texts fit
    have natural : 0 ≤ config.lines := by
      rw [WordedConfig.plain_of_config? are_texts]
      exact Config.lines_of_load loaded
    constructor
    · intro unopenable script
      rcases fit.prepare_of_unopenable unopenable with ⟨broken, fault, prepared, result⟩
      simp [run, loaded, are_texts, runWith, Relay.run, prepared, endOf, result, Failure.isReported]
    · intro openable
      rcases fit.prepare_of_openable natural openable with ⟨session, prepared, ready⟩
      refine ⟨session, prepared, fun finishers client runs => ends_of_runs ready runs, ?_⟩
      intro script tame
      rcases Relay.runs_play ready tame with ⟨finishers, runs⟩
      refine ⟨finishers, runs, ?_⟩
      have ends := ends_of_runs ready runs
        (session.keeper.play (.start session.sink) script).unread
        (session.keeper.play (.start session.sink) script).journal
      rw [Client.phase_settled, endOf_congr (Relay.result_conclude_settled session _ _ _)] at ends
      simpa [run, loaded, are_texts, runWith, Relay.run, prepared] using ends

/-- A configuration with a log file in a directory that does not exist. -/
def lostFile : Config := { logFile := some "/missing/out" }

/-- The session of the default configuration. -/
def plainSession : Session :=
  ⟨⟨Relay.clientOptions {},
      ⟨Filter.unrestricted.accepts, (Formatter.ofConfig {}).1.render, Sink.machine, false⟩,
      [Relay.stopEntry]⟩,
    (.standard ⟨Relay.quietWorld.output⟩, Relay.quietWorld.disk), Relay.quietWorld, .idle, []⟩

/-- Somebody asks to stop, and then no attempt to connect succeeds. -/
theorem exists_runs_plainSession : ∃ client, Relay.Runs plainSession [.requested, .unavailable] client ∧
    client.phase = .ended .unavailable := by
  have refused : (Happening.connected (.error .noSuchEntry)).Tame := by
    intro fault failed
    cases failed
    rfl
  have stopped := (Relay.Runs.start : Relay.Runs plainSession _ _).came .stopped trivial
  have first := stopped.came (.connected rfl (.error .noSuchEntry)) refused
  have second := first.came (.connected rfl (.error .noSuchEntry)) refused
  have third := second.came (.connected rfl (.error .noSuchEntry)) refused
  have fourth := third.came (.connected rfl (.error .noSuchEntry)) refused
  have fifth := fourth.came (.connected rfl (.error .noSuchEntry)) refused
  exact ⟨_, fifth, rfl⟩

theorem run_decided_quietWorld :
    (run Yaml.reader Relay.quietWorld [("LOGREAD_REMOTE_HOST", "log.example")] [] {}).ending =
        .status 2 ∧
      (run Yaml.reader Relay.quietWorld [("LOGREAD_LOG_FILE", "/missing/out")] [] {}).ending =
        .status 1 ∧
      Config.load Yaml.reader Relay.quietWorld.disk.contents [] [] = (.ok {}, []) ∧
      ({} : WordedConfig).config? = some {} ∧ Relay.prepare {} Relay.quietWorld = .ok plainSession ∧
      ∃ client, Relay.Runs plainSession [.requested, .unavailable] client ∧ ∀ unread journal,
        (endOf (Relay.conclude plainSession ⟨client, unread, journal⟩)).1 = .status 0 := by
  have unpaired : Config.load Yaml.reader Relay.quietWorld.disk.contents
      [("LOGREAD_REMOTE_HOST", "log.example")] [] = (.error (.options .unpaired), []) := rfl
  have lost : Config.load Yaml.reader Relay.quietWorld.disk.contents
      [("LOGREAD_LOG_FILE", "/missing/out")] [] =
        (.ok { logFile := some (Wording.ofText "/missing/out") }, []) := rfl
  have plain : Config.load Yaml.reader Relay.quietWorld.disk.contents [] [] = (.ok {}, []) := rfl
  have prepared : Relay.prepare {} Relay.quietWorld = .ok plainSession := rfl
  have fit_lost : Relay.Fit lostFile Relay.quietWorld := by
    apply Relay.fit_of_zeroless (by decide) ⟨_, rfl⟩ Trouble.tame_none (by simp [lostFile])
    intro path kind
    cases kind
    simp [Path.Zeroless]
  have fit_plain : Relay.Fit {} Relay.quietWorld := by
    apply Relay.fit_of_zeroless (by decide) ⟨_, rfl⟩ Trouble.tame_none (by simp)
    intro path kind
    cases kind
  refine ⟨(run_decided Yaml.reader Relay.quietWorld _ []).1 _ _ _ unpaired rfl {}, ?_, plain, rfl,
    prepared, ?_⟩
  · exact ((run_decided Yaml.reader Relay.quietWorld _ []).2 _ lostFile _ lost rfl fit_lost).1
      ⟨Relay.quietWorld, "/missing/out", _, rfl, rfl, rfl⟩ {}
  · have openable : ¬Relay.Unopenable {} Relay.quietWorld := by
      rintro ⟨announced, path, fault, -, kind, -⟩
      cases kind
    rcases ((run_decided Yaml.reader Relay.quietWorld [] []).2 _ _ _ plain rfl fit_plain).2 openable with
      ⟨session, prepared_so, decided, -⟩
    cases prepared.symm.trans prepared_so
    rcases exists_runs_plainSession with ⟨client, runs, ended⟩
    refine ⟨client, runs, ?_⟩
    intro unread journal
    have ends := decided _ client runs unread journal
    rw [ended] at ends
    rcases ends with ⟨first, later, same, status⟩
    cases same
    exact status

end Program

end LogRelay
