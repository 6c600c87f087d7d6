import LogRelay.Journal
import LogRelay.Posix.Fault
import LogRelay.Stats

/-!
# Steps of a sink

A sink takes texts, one a step. A text is accepted or refused. A step can also end early: because the
output can no longer be opened, which ends the delivery, or by a failure that no sink deals with. In
either case the state that it had reached, its entries in the journal and its counts remain.
-/

namespace LogRelay

/-- An output that cannot be opened. -/
structure OpenFault where
  number : Int
  text : String
  deriving DecidableEq, Repr

namespace OpenFault

/-- The message of an output that cannot be opened. -/
def message (fault : OpenFault) : String :=
  (SystemFault.numbered fault.number fault.text).message

end OpenFault

/-- Why a step of a sink ended early. -/
inductive SinkFault where
  | unopened (fault : OpenFault)
  /-- A failure that no sink deals with. -/
  | escaped (fault : SystemFault)
  deriving DecidableEq, Repr

/-- What a step of a sink comes to. -/
structure SinkStep (State Result : Type) where
  state : State
  result : Except SinkFault Result
  journal : Journal
  bumps : List Counter

namespace SinkStep

variable {State Result Other : Type}

/-- A step that does nothing. -/
def done (state : State) (result : Result) : SinkStep State Result :=
  ⟨state, .ok result, [], []⟩

/-- A step that ends early. -/
def failed (state : State) (fault : SinkFault) : SinkStep State Result :=
  ⟨state, .error fault, [], []⟩

/-- A step that notes something in the journal. -/
def noted (state : State) (entry : Entry) (result : Result) : SinkStep State Result :=
  ⟨state, .ok result, [entry], []⟩

/-- One step and then another, unless the first one ends early. -/
def andThen (step : SinkStep State Result) (next : State → Result → SinkStep State Other) :
    SinkStep State Other :=
  match step.result with
  | .ok result =>
      let later := next step.state result
      ⟨later.state, later.result, step.journal ++ later.journal, step.bumps ++ later.bumps⟩
  | .error fault => ⟨step.state, .error fault, step.journal, step.bumps⟩

@[simp]
theorem done_andThen (state : State) (result : Result)
    (next : State → Result → SinkStep State Other) :
    (done state result).andThen next = next state result := rfl

theorem andThen_of_ok {step : SinkStep State Result} {result : Result}
    (ends_well : step.result = .ok result) (next : State → Result → SinkStep State Other) :
    step.andThen next = ⟨(next step.state result).state, (next step.state result).result,
      step.journal ++ (next step.state result).journal,
      step.bumps ++ (next step.state result).bumps⟩ := by
  simp only [andThen, ends_well]

theorem andThen_of_error {step : SinkStep State Result} {fault : SinkFault}
    (ends_early : step.result = .error fault) (next : State → Result → SinkStep State Other) :
    step.andThen next = ⟨step.state, .error fault, step.journal, step.bumps⟩ := by
  simp only [andThen, ends_early]

theorem andThen_assoc {Last : Type} (step : SinkStep State Result)
    (next : State → Result → SinkStep State Other) (last : State → Other → SinkStep State Last) :
    (step.andThen next).andThen last =
      step.andThen fun state result => (next state result).andThen last := by
  rcases step with ⟨state, fault | result, journal, bumps⟩
  · rfl
  · rcases later : next state result with ⟨after, fault | other, entries, counters⟩ <;>
      simp [andThen, later]

end SinkStep

/-- A sink as the delivery sees it: whether it takes texts now, and how it takes one. -/
structure SinkMachine (State : Type) where
  isConnected : State → Bool
  write : State → String → SinkStep State Bool

end LogRelay
