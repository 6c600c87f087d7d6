import LogRelay.Sink.Choice

/-!
# What sinks count

A sink has no say in what became of a record: whether a text counts as delivered is decided by the
delivery, from the answer of the sink. A sink counts only its own rotations and connections
(`SinkMachine.IsDiscreet`), whichever of the three kinds it is (`Sink.machine_isDiscreet`).
-/

namespace LogRelay

namespace Counter

/-- Whether a sink counts this itself. -/
def isOfSink : Counter → Bool
  | rotations | connects => true
  | received | delivered | filtered | dropped | failed => false

theorem count_eq_zero_of_isOfSink {own : List Counter}
    (of_sink : ∀ counter ∈ own, counter.isOfSink = true) (counter : Counter)
    (not_of_sink : counter.isOfSink = false) : own.count counter = 0 := by
  rw [List.count_eq_zero]
  intro counter_mem
  rw [of_sink counter counter_mem] at not_of_sink
  cases not_of_sink

end Counter

/-! ## Discreet steps -/

namespace SinkStep

variable {State Other Result Next : Type}

/-- The step counts nothing but what a sink counts itself. -/
def IsDiscreet (step : SinkStep State Result) : Prop :=
  ∀ counter ∈ step.bumps, counter.isOfSink = true

theorem IsDiscreet.counts {step : SinkStep State Result} (discreet : step.IsDiscreet) :
    step.bumps.count .received = 0 ∧ step.bumps.count .delivered = 0 ∧
      step.bumps.count .filtered = 0 ∧ step.bumps.count .dropped = 0 ∧
      step.bumps.count .failed = 0 := by
  have own := Counter.count_eq_zero_of_isOfSink discreet
  refine ⟨?_, ?_, ?_, ?_, ?_⟩ <;> exact own _ rfl

theorem isDiscreet_of_bumps_eq_nil {step : SinkStep State Result} (silent : step.bumps = []) :
    step.IsDiscreet := by
  intro counter counter_mem
  rw [silent] at counter_mem
  cases counter_mem

@[simp]
theorem isDiscreet_done (state : State) (result : Result) : (done state result).IsDiscreet :=
  isDiscreet_of_bumps_eq_nil rfl

@[simp]
theorem isDiscreet_failed (state : State) (fault : SinkFault) :
    (failed state fault : SinkStep State Result).IsDiscreet :=
  isDiscreet_of_bumps_eq_nil rfl

@[simp]
theorem isDiscreet_noted (state : State) (entry : Entry) (result : Result) :
    (noted state entry result).IsDiscreet :=
  isDiscreet_of_bumps_eq_nil rfl

theorem IsDiscreet.andThen {step : SinkStep State Result}
    {next : State → Result → SinkStep State Next} (discreet : step.IsDiscreet)
    (discreet_next : ∀ state result, (next state result).IsDiscreet) :
    (step.andThen next).IsDiscreet := by
  cases ends : step.result with
  | error fault =>
      rw [andThen_of_error ends]
      exact discreet
  | ok result =>
      rw [andThen_of_ok ends]
      intro counter counter_mem
      rcases List.mem_append.mp counter_mem with first | later
      · exact discreet counter first
      · exact discreet_next step.state result counter later

theorem IsDiscreet.mapState {step : SinkStep State Result} (discreet : step.IsDiscreet)
    (embed : State → Other) : (step.mapState embed).IsDiscreet :=
  discreet

end SinkStep

/-- The sink counts nothing but what is its own when it is given a text. -/
def SinkMachine.IsDiscreet {State : Type} (machine : SinkMachine State) : Prop :=
  ∀ state text, (machine.write state text).IsDiscreet

/-! ## The sinks there are -/

open SinkStep

namespace StandardSink

theorem machine_isDiscreet : machine.IsDiscreet := by
  rintro ⟨sink, disk⟩ text
  simp only [machine, write]
  split
  · simp
  · split <;> simp

end StandardSink

namespace FileSink

theorem isDiscreet_close (state : State) : (close state).IsDiscreet := by
  simp only [close]
  split
  · simp
  · split
    · simp
    · split <;> simp

theorem isDiscreet_moveAside (state : State) : (moveAside state).IsDiscreet := by
  simp only [moveAside]
  split
  · simp
  · split <;> simp

theorem isDiscreet_openFile (state : State) : (openFile state).IsDiscreet := by
  simp only [openFile]
  split <;> simp

theorem isDiscreet_countRotation (state : State) : (countRotation state).IsDiscreet := by
  intro counter counter_mem
  rw [List.mem_singleton.mp counter_mem]
  rfl

theorem isDiscreet_rotate (state : State) : (rotate state).IsDiscreet :=
  (((isDiscreet_close state).andThen fun state _ => isDiscreet_moveAside state).andThen
    fun state _ => isDiscreet_openFile state).andThen fun state _ => isDiscreet_countRotation state

theorem isDiscreet_rotateIfNeeded (state : State) : (rotateIfNeeded state).IsDiscreet := by
  simp only [rotateIfNeeded]
  split
  · exact isDiscreet_rotate state
  · simp
  · simp

theorem isDiscreet_appendText (state : State) (text : String) :
    (appendText state text).IsDiscreet := by
  simp only [appendText]
  split
  · simp
  · split
    · simp
    · split <;> simp

theorem machine_isDiscreet : machine.IsDiscreet := by
  intro state text
  simp only [machine, write]
  split
  · exact (isDiscreet_rotateIfNeeded state).andThen fun state _ => isDiscreet_appendText state text
  · simp

end FileSink

namespace Link

theorem isDiscreet_unwatch (link : Link) (socket : Nat) : (link.unwatch socket).IsDiscreet := by
  simp only [unwatch]
  split
  · simp
  · split <;> simp

theorem isDiscreet_closeSocket (link : Link) (socket : Nat) :
    (link.closeSocket socket).IsDiscreet := by
  simp only [closeSocket]
  split
  · simp
  · split <;> simp

theorem isDiscreet_teardown (link : Link) : link.teardown.IsDiscreet := by
  simp only [teardown]
  split
  · simp
  case h_2 socket _ =>
      exact ((isDiscreet_unwatch link socket).andThen
        fun link _ => isDiscreet_closeSocket link socket).andThen fun _ _ => isDiscreet_done _ _

theorem isDiscreet_dropWith (link : Link) (text : String) : (link.dropWith text).IsDiscreet :=
  (isDiscreet_noted link ⟨.warning, .sink, text⟩ ()).andThen fun link _ =>
    (isDiscreet_teardown link).andThen fun _ _ => isDiscreet_done _ _

theorem machine_isDiscreet : machine.IsDiscreet := by
  intro link text
  simp only [machine, write]
  split
  · simp
  · split
    · simp
    · split
      · exact (isDiscreet_dropWith _ _).andThen fun link _ => isDiscreet_done link false
      · simp

end Link

/-- Every sink that a configuration can ask for is discreet. -/
theorem Sink.machine_isDiscreet : Sink.machine.IsDiscreet := by
  rintro ⟨sink, disk⟩ text
  cases sink with
  | standard sink => exact (StandardSink.machine_isDiscreet (sink, disk) text).mapState _
  | file sink => exact (FileSink.machine_isDiscreet (sink, disk) text).mapState _
  | network link => exact (Link.machine_isDiscreet link text).mapState _

end LogRelay
