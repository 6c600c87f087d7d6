import LogRelay.Proofs.Relay.Runs
import LogRelay.Proofs.Source.Request

/-!
# Before the client

With calls that fail by the operating system only, a pattern that makes a filter and a number of lines
that can be asked for, a run comes to its client unless its log file cannot be opened.
-/

namespace LogRelay

theorem Sink.ofConfig_result (config : Config) (output : Nat) (disk : Disk) :
    (ofConfig config output disk).result = .ok () ∨
      ∃ path fault, config.sinkKind = .file path ∧
        disk.openAppend path FileSink.fileMode = .error fault ∧
        (ofConfig config output disk).result =
          .error ((FileSink.closed path config.logSize).openFault fault) := by
  rw [ofConfig]
  split
  · exact .inl rfl
  · rename_i path kind
    cases opens : disk.openAppend path FileSink.fileMode with
    | ok opened =>
        left
        simp [SinkStep.mapState, FileSink.openFile, FileSink.closed, opens, SinkStep.noted]
    | error fault =>
        right
        refine ⟨path, fault, kind, opens, ?_⟩
        simp [SinkStep.mapState, FileSink.openFile, FileSink.closed, opens, SinkStep.failed]
  · exact .inl rfl

namespace Relay

variable {config : Config} {world announced : World}

/-- A run that fails by the operating system only, with a filter and a request that can be made. A path
that holds a zero character is refused without asking the operating system, which is a failure of
another kind: neither of the two files may be at such a path. No other path is excluded
(`fit_of_zeroless`). -/
structure Fit (config : Config) (world : World) : Prop where
  lines : config.lines < 0x100000000
  filter : ∃ made, Filter.ofText config.filterPattern = .ok made
  trouble : world.disk.trouble.Tame
  /-- Leaving the number of the process. -/
  number : ∀ path fault, config.follow = true → config.pidFile = some path →
    world.disk.overwrite path (Utf8.encode (toString world.process)) = .error fault →
      fault.isSystem = true
  /-- Opening the log file. -/
  log : ∀ announced path fault, (announce config world).1 = .ok announced →
    config.sinkKind = .file path →
      announced.disk.openAppend path FileSink.fileMode = .error fault → fault.isSystem = true

/-- The log file of a run cannot be opened at its beginning. -/
def Unopenable (config : Config) (world : World) : Prop :=
  ∃ announced path fault, (announce config world).1 = .ok announced ∧
    config.sinkKind = .file path ∧ announced.disk.openAppend path FileSink.fileMode = .error fault

theorem trouble_announce (announces : (announce config world).1 = .ok announced) :
    announced.disk.trouble = world.disk.trouble := by
  rw [announce] at announces
  split at announces
  · rename_i path given
    split at announces
    · rw [writeNumber] at announces
      split at announces
      · rename_i disk writes
        cases announces
        exact Disk.trouble_overwrite writes
      · split at announces
        · cases announces
          rfl
        · cases announces
    · cases announces
      rfl
  · cases announces
    rfl

/-- Calls with paths that hold no zero character fail by the operating system only. -/
theorem fit_of_zeroless (lines : config.lines < 0x100000000)
    (filter : ∃ made, Filter.ofText config.filterPattern = .ok made)
    (trouble : world.disk.trouble.Tame)
    (number : ∀ path, config.pidFile = some path → Path.Zeroless path)
    (log : ∀ path, config.sinkKind = .file path → Path.Zeroless path) : Fit config world := by
  refine ⟨lines, filter, trouble, ?_, ?_⟩
  · intro path fault _ given fails
    exact (Disk.overwrite_yields world.disk (number path given) _).isSystem fails
  · intro announced path fault announces kind fails
    rw [← trouble_announce announces] at trouble
    exact (Disk.openAppend_yields trouble (log path kind) FileSink.fileMode).isSystem fails

/-- Leaving the number of the process does not break a run off. -/
theorem Fit.announces (fit : Fit config world) :
    ∃ announced, (announce config world).1 = .ok announced := by
  rw [announce]
  split
  · rename_i path given
    split
    · rename_i wanted
      simp only [Bool.and_eq_true] at wanted
      rw [writeNumber]
      split
      · exact ⟨_, rfl⟩
      · rename_i fault fails
        rw [if_pos (fit.number path fault wanted.1 given fails)]
        exact ⟨world, rfl⟩
    · exact ⟨world, rfl⟩
  · exact ⟨world, rfl⟩

theorem prepare_of_announced (announces : (announce config world).1 = .ok announced) :
    prepare config world = openSink config announced (announce config world).2 := by
  rw [prepare]
  split
  · rename_i after journal announces_so
    rw [announces_so] at announces
    cases announces
    rw [announces_so]
  · rename_i fault journal fails
    rw [fails] at announces
    cases announces

/-- A run whose log file cannot be opened ends with that. -/
theorem Fit.prepare_of_unopenable (fit : Fit config world) (unopenable : Unopenable config world) :
    ∃ run fault, prepare config world = .error run ∧
      run.result = some (.error (.delivery (.unopened fault))) := by
  rcases unopenable with ⟨announced, path, fault, announces, kind, fails⟩
  have isSystem := fit.log announced path fault announces kind fails
  rw [prepare_of_announced announces, openSink]
  rcases Sink.ofConfig_result config announced.output announced.disk with
    ends_well | ⟨other, met, same_kind, met_fails, result⟩
  · simp [Sink.ofConfig, kind, SinkStep.mapState, FileSink.openFile, FileSink.closed, fails,
      SinkStep.failed] at ends_well
  · cases kind.symm.trans same_kind
    cases fails.symm.trans met_fails
    simp only [result, FileSink.openFault, if_pos isSystem]
    exact ⟨_, _, rfl, rfl⟩

/-- Otherwise it comes to its client. -/
theorem Fit.prepare_of_openable (fit : Fit config world) (natural : 0 ≤ config.lines)
    (openable : ¬Unopenable config world) :
    ∃ session, prepare config world = .ok session ∧ Ready session := by
  rcases fit.announces with ⟨announced, announces⟩
  have tame := fit.trouble
  rw [← trouble_announce announces] at tame
  rcases fit.filter with ⟨⟨filter, notes⟩, made⟩
  have opened : (Sink.ofConfig config announced.output announced.disk).result = .ok () := by
    rcases Sink.ofConfig_result config announced.output announced.disk with
      ends_well | ⟨path, fault, kind, fails, -⟩
    · exact ends_well
    · exact absurd ⟨announced, path, fault, announces, kind, fails⟩ openable
  rw [prepare_of_announced announces, openSink]
  simp only [opened, equip, made]
  refine ⟨_, rfl, ?_, rfl, ?_, ?_⟩
  · exact Sink.ofConfig_tame config announced.output tame
  · show (0 : Int) < 5
    decide
  · exact Request.exists_encode natural fit.lines config.follow

theorem Fit.ready (fit : Fit config world) (natural : 0 ≤ config.lines) {session : Session}
    (prepared : prepare config world = .ok session) : Ready session := by
  by_cases unopenable : Unopenable config world
  · rcases fit.prepare_of_unopenable unopenable with ⟨run, fault, broken, -⟩
    cases prepared.symm.trans broken
  · rcases fit.prepare_of_openable natural unopenable with ⟨other, prepared_so, ready⟩
    cases prepared.symm.trans prepared_so
    exact ready

end Relay

end LogRelay
