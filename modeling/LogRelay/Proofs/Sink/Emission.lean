import LogRelay.Proofs.Link.Invariant
import LogRelay.Proofs.Sink.FileSteps
import LogRelay.Sink.Choice

/-!
# What a sink emits

A sink that accepts a text has emitted bytes for it: to the file of its descriptor, or through its
socket (`emits_of_accepted`). Which bytes these are depends on the kind of the sink and on the options
of its link only, and both stay as the configuration has them, whatever becomes of the sink
(`Reached.suits`).
-/

namespace LogRelay

/-! ## The options of a link -/

namespace Link

variable {link : Link}

@[simp]
theorem options_andThen {Result Other : Type} {step : SinkStep Link Result}
    {next : Link → Result → SinkStep Link Other}
    (keeps : ∀ link result, (next link result).state.options = link.options) :
    (step.andThen next).state.options = step.state.options := by
  cases ends : step.result with
  | error fault => rw [SinkStep.andThen_of_error ends]
  | ok result =>
      rw [SinkStep.andThen_of_ok ends]
      exact keeps step.state result

@[simp]
theorem options_scheduleReconnect : link.scheduleReconnect.options = link.options := by
  unfold scheduleReconnect
  split <;> rfl

@[simp]
theorem options_cancelRetry : link.cancelRetry.options = link.options := by
  unfold cancelRetry
  split <;> rfl

@[simp]
theorem options_unwatch (socket : Nat) : (link.unwatch socket).state.options = link.options := by
  unfold unwatch
  split
  · rfl
  · split <;> rfl

@[simp]
theorem options_closeSocket (socket : Nat) :
    (link.closeSocket socket).state.options = link.options := by
  unfold closeSocket
  split
  · rfl
  · split <;> rfl

@[simp]
theorem options_teardown : link.teardown.state.options = link.options := by
  unfold teardown
  split
  · rfl
  · simp [SinkStep.done]

@[simp]
theorem options_close : link.close.state.options = link.options := by
  simp [close]

@[simp]
theorem options_dropWith (text : String) : (link.dropWith text).state.options = link.options := by
  simp [dropWith, dropLink, SinkStep.noted, SinkStep.done]

@[simp]
theorem options_write (text : String) : (link.write text).state.options = link.options := by
  unfold write
  split
  · rfl
  · split
    · rfl
    · split
      · simp [SinkStep.done, call]
      · rfl

theorem options_tryAddresses (last : Option SystemFault) (addresses : List (Option SystemFault)) :
    (link.tryAddresses last addresses).2.options = link.options := by
  induction addresses generalizing link last with
  | nil => rfl
  | cons address addresses ih =>
      cases address with
      | none => rfl
      | some fault =>
          simp only [tryAddresses]
          split
          · split
            · rfl
            · rw [ih]
              rfl
          · rfl

theorem options_askSocket (link : Link) (attempt : Attempt) :
    (link.askSocket attempt).2.options = link.options := by
  unfold askSocket
  cases attempt with
  | fails fault => split <;> rfl
  | finds addresses =>
      split
      · exact options_tryAddresses none addresses
      · rfl

@[simp]
theorem options_afterFailure (fault : SystemFault) :
    (link.afterFailure fault).state.options = link.options := by
  unfold afterFailure
  split
  · simp [SinkStep.noted]
  · rfl

@[simp]
theorem options_reconnect (attempt : Attempt) :
    (link.reconnect attempt).state.options = link.options := by
  simp only [reconnect]
  split
  · rfl
  · have same := options_askSocket { link with retry := none, phase := .connecting } attempt
    split
    · rename_i socket after asked
      rw [asked] at same
      exact same
    · rename_i fault after asked
      rw [asked] at same
      rw [options_afterFailure]
      exact same

@[simp]
theorem options_onReadable (reading : Reading) :
    (link.onReadable reading).state.options = link.options := by
  unfold onReadable
  split
  · rfl
  · cases reading with
    | bytes bytes =>
        simp only
        split
        · simp
        · rfl
    | fails fault =>
        simp only
        split
        · rfl
        · split
          · simp
          · rfl

/-- Whatever happens to a link, it leads where it did, and sends as it did. -/
@[simp]
theorem options_step (event : LinkEvent) : (link.step event).state.options = link.options := by
  cases event with
  | write text => simp [step, SinkStep.done]
  | fire attempt =>
      rw [step, fire]
      split
      · rfl
      · simp [call]
  | fireLate attempt =>
      rw [step]
      split
      · simp
      · rfl
  | readable reading =>
      rw [step, readable]
      split
      · rfl
      · simp
  | readableLate reading => simp [step]
  | close => simp [step]

end Link

/-! ## The sink of a configuration -/

namespace Sink

variable {config : Config} {sink : Sink} {state : State}

/-- What can become of the sink of a configuration: it is given texts and closed, and things happen to
its link. Any trouble can be ahead of the link, and others can change the disk. -/
inductive Reached (config : Config) : State → Prop where
  | made (output : Nat) (disk : Disk) : Reached config (ofConfig config output disk).state
  | written {state : State} (reached : Reached config state) (text : String) :
      Reached config (write state text).state
  | closed {state : State} (reached : Reached config state) : Reached config (close state).state
  | happened {link : Link} {disk : Disk} (reached : Reached config (.network link, disk))
      (event : LinkEvent) : Reached config (.network (link.step event).state, disk)
  | troubled {link : Link} {disk : Disk} (reached : Reached config (.network link, disk))
      (trouble : LinkTrouble) : Reached config (.network { link with trouble := trouble }, disk)
  | disturbed {sink : Sink} {before : Disk} (reached : Reached config (sink, before))
      (after : Disk) : Reached config (sink, after)

/-- The sink is of the kind that the configuration asks for, and its link has the options of the
configuration. -/
def Suits (config : Config) : Sink → Prop
  | standard _ => config.sinkKind = .standardOutput
  | file _ => ∃ path, config.sinkKind = .file path
  | network link => ∃ host port, config.sinkKind = .network host port ∧
      link.options = linkOptions config host port

theorem suits_ofConfig (config : Config) (output : Nat) (disk : Disk) :
    Suits config (ofConfig config output disk).state.1 := by
  rw [ofConfig]
  cases kind : config.sinkKind with
  | standardOutput => exact kind
  | file path => exact ⟨path, kind⟩
  | network host port =>
      refine ⟨host, port, kind, ?_⟩
      simp [Link.start, Link.idle]

theorem suits_write (suits : Suits config state.1) (text : String) :
    Suits config (write state text).state.1 := by
  rcases state with ⟨_ | _ | link, disk⟩
  · exact suits
  · exact suits
  · simpa [write, SinkStep.mapState, Suits] using suits

theorem suits_close (suits : Suits config state.1) : Suits config (close state).state.1 := by
  rcases state with ⟨_ | _ | link, disk⟩
  · exact suits
  · exact suits
  · simpa [close, SinkStep.mapState, Suits] using suits

theorem Reached.suits (reached : Reached config state) : Suits config state.1 := by
  induction reached with
  | made output disk => exact suits_ofConfig config output disk
  | written reached text ih => exact suits_write ih text
  | closed reached ih => exact suits_close ih
  | happened reached event ih => simpa [Suits] using ih
  | troubled reached trouble ih => exact ih
  | disturbed reached after ih => exact ih

/-! ## What is emitted -/

/-- The bytes that a sink emits for a text that it accepts. -/
def emission : Sink → String → List UInt8
  | network link, text => link.options.frame text
  | _, text => Utf8.encode text

end Sink

/-- The bytes are appended to the file of the descriptor, and nothing else changes but the number of
calls. -/
def Disk.Takes (before : Disk) (descriptor : Nat) (bytes : List UInt8) (after : Disk) : Prop :=
  ∃ number calls, before.fileOf? descriptor = some number ∧
    after = { before.appendTo number bytes with calls := calls }

namespace Sink

/-- The bytes leave the sink, and nothing else happens: they are appended to the file of its
descriptor, or sent through its socket. -/
inductive Emits : State → List UInt8 → State → Prop where
  | standard {sink : StandardSink} {before after : Disk} {bytes : List UInt8}
      (takes : before.Takes sink.descriptor bytes after) :
      Emits (.standard sink, before) bytes (.standard sink, after)
  | file {sink : FileSink} {before after : Disk} {bytes : List UInt8} {descriptor : Nat}
      (opened : sink.descriptor = some descriptor) (takes : before.Takes descriptor bytes after) :
      Emits (.file sink, before) bytes (.file sink, after)
  | network {link : Link} {disk : Disk} {bytes : List UInt8} {socket : Nat}
      (held : link.socket = some socket) :
      Emits (.network link, disk) bytes (.network (link.call (.send socket bytes true)), disk)

/-- The sink just before it emits a text: a file that has grown too long is rotated first. -/
def makeRoom : State → State
  | (file sink, disk) =>
      let ready := (FileSink.rotateIfNeeded (sink, disk)).state
      (file ready.1, ready.2)
  | state => state

end Sink

/-- What is not nothing can only be written through an open descriptor. -/
theorem Disk.takes_of_writeAll {disk after : Disk} {descriptor : Nat} {bytes : List UInt8}
    (nonempty : bytes ≠ []) (writes : disk.writeAll descriptor bytes = (.ok (), after)) :
    disk.Takes descriptor bytes after := by
  cases opened : disk.fileOf? descriptor with
  | some number =>
      rcases Disk.writeAll_eq_ok opened writes with ⟨calls, grown⟩
      exact ⟨number, calls, opened, grown⟩
  | none =>
      rcases List.exists_cons_of_ne_nil nonempty with ⟨byte, others, rfl⟩
      simp only [writeAll, List.length_cons, writeAll.go, writeOnce, opened, List.isEmpty_cons] at writes
      cases failing : (disk.trouble.write disk.calls.writes).fault <;> simp [failing] at writes

theorem StandardSink.takes_of_accepted {sink : StandardSink} {disk : Disk} {text : String}
    (nonempty : Utf8.encode text ≠ []) (accepted : (write (sink, disk) text).result = .ok true) :
    ∃ after, (write (sink, disk) text).state = (sink, after) ∧
      disk.Takes sink.descriptor (Utf8.encode text) after := by
  cases writes : disk.writeAll sink.descriptor (Utf8.encode text) with
  | mk result after =>
      cases result with
      | ok done =>
          exact ⟨after, by simp [write, writes, SinkStep.done], Disk.takes_of_writeAll nonempty writes⟩
      | error fault =>
          simp only [write, writes] at accepted
          split at accepted <;> simp [SinkStep.noted, SinkStep.failed] at accepted

namespace FileSink

variable {disk : Disk} {text : String}

theorem takes_of_append {after : Disk} {descriptor : Nat} (nonempty : Utf8.encode text ≠ [])
    (appends : append disk descriptor text = (.ok (), after)) :
    disk.Takes descriptor (Utf8.encode text) after := by
  cases writes : disk.writeAll descriptor (Utf8.encode text) with
  | mk result between =>
      cases result with
      | error fault => simp [append, writes] at appends
      | ok done =>
          rcases Disk.takes_of_writeAll nonempty writes with ⟨number, calls, opened, grown⟩
          rcases append_eq_ok opened appends with ⟨calls, grown⟩
          exact ⟨number, calls, opened, grown⟩

theorem takes_of_appendText {sink : FileSink} (nonempty : Utf8.encode text ≠ [])
    (accepted : (appendText (sink, disk) text).result = .ok true) :
    ∃ descriptor after, sink.descriptor = some descriptor ∧
      (appendText (sink, disk) text).state = (sink, after) ∧
        disk.Takes descriptor (Utf8.encode text) after := by
  cases opened : sink.descriptor with
  | none => simp [appendText, opened, SinkStep.done] at accepted
  | some descriptor =>
      cases appends : append disk descriptor text with
      | mk result after =>
          cases result with
          | ok done =>
              exact ⟨descriptor, after, rfl, by simp [appendText, opened, appends, SinkStep.done],
                takes_of_append nonempty appends⟩
          | error fault =>
              simp only [appendText, opened, appends] at accepted
              split at accepted <;> simp [SinkStep.noted, SinkStep.failed] at accepted

end FileSink

namespace Sink

theorem emits_standard {sink : StandardSink} {disk : Disk} {text : String}
    (nonempty : Utf8.encode text ≠ [])
    (accepted : (write (.standard sink, disk) text).result = .ok true) :
    Emits (.standard sink, disk) (Utf8.encode text) (write (.standard sink, disk) text).state := by
  rcases StandardSink.takes_of_accepted nonempty accepted with ⟨after, state_eq, takes⟩
  simp only [write, SinkStep.mapState, state_eq]
  exact .standard takes

theorem emits_file {sink : FileSink} {disk : Disk} {text : String}
    (nonempty : Utf8.encode text ≠ [])
    (accepted : (write (.file sink, disk) text).result = .ok true) :
    Emits (makeRoom (.file sink, disk)) (Utf8.encode text)
      (write (.file sink, disk) text).state := by
  have accepted : (FileSink.write (sink, disk) text).result = .ok true := accepted
  simp only [write, SinkStep.mapState, makeRoom]
  rw [FileSink.write] at accepted ⊢
  split at accepted
  case isFalse => simp [SinkStep.done] at accepted
  case isTrue connected =>
    rw [if_pos connected]
    cases makes : (FileSink.rotateIfNeeded (sink, disk)).result with
    | error fault =>
        rw [SinkStep.andThen_of_error makes] at accepted
        cases accepted
    | ok done =>
        rw [SinkStep.andThen_of_ok makes] at accepted ⊢
        rcases FileSink.takes_of_appendText nonempty accepted with
          ⟨descriptor, after, opened, state_eq, takes⟩
        simp only [state_eq]
        exact .file opened takes

theorem emits_network {link : Link} {disk : Disk} {text : String}
    (accepted : (write (.network link, disk) text).result = .ok true) :
    Emits (.network link, disk) (link.options.frame text)
      (write (.network link, disk) text).state := by
  have accepted : (link.write text).result = .ok true := accepted
  simp only [write, SinkStep.mapState]
  cases held : link.socket with
  | none => simp [Link.write, held, SinkStep.done] at accepted
  | some socket =>
      cases sends : link.trouble.send link.calls.length with
      | none =>
          have sent : (link.write text).state =
              link.call (.send socket (link.options.frame text) true) := by
            simp [Link.write, held, sends, SinkStep.done]
          rw [sent]
          exact .network held
      | some fault =>
          -- A text that could not be sent is refused, or the step ends early.
          simp only [Link.write, held, sends] at accepted
          split at accepted
          · rw [SinkStep.andThen] at accepted
            split at accepted <;> cases accepted
          · cases accepted

/-- A sink that accepts a text emits the bytes for it, after it has made room. -/
theorem emits_of_accepted {state : State} {text : String}
    (visible : Utf8.encode text ≠ [] ∨ ∃ link, state.1 = .network link)
    (accepted : (write state text).result = .ok true) :
    Emits (makeRoom state) (emission state.1 text) (write state text).state := by
  rcases state with ⟨sink | sink | link, disk⟩
  · rcases visible with nonempty | ⟨link, impossible⟩
    · exact emits_standard nonempty accepted
    · cases impossible
  · rcases visible with nonempty | ⟨link, impossible⟩
    · exact emits_file nonempty accepted
    · cases impossible
  · exact emits_network accepted

end Sink

end LogRelay
