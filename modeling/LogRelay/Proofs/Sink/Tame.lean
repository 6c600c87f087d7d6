import LogRelay.Proofs.Link.Invariant
import LogRelay.Proofs.Posix.Faults
import LogRelay.Sink.Choice

/-!
# Sinks whose calls fail by the operating system only

Such a sink deals with every failure but one: that its file cannot be opened again. It stays such a
sink through whatever it is given and whatever happens to it, and closing it always ends well.
-/

namespace LogRelay

namespace SinkStep

variable {State Result Other : Type} {kind : State → Prop}

/-- A step ends in a state of some kind, and no failure escapes from it. -/
def Contained (step : SinkStep State Result) (kind : State → Prop) : Prop :=
  kind step.state ∧ ∀ fault, step.result ≠ .error (.escaped fault)

theorem contained_of_ok {step : SinkStep State Result} {result : Result} (is_kind : kind step.state)
    (ends_well : step.result = .ok result) : step.Contained kind := by
  refine ⟨is_kind, ?_⟩
  intro fault escapes
  rw [ends_well] at escapes
  cases escapes

theorem Contained.andThen {step : SinkStep State Result}
    {next : State → Result → SinkStep State Other} (first : step.Contained kind)
    (second : ∀ state result, kind state → (next state result).Contained kind) :
    (step.andThen next).Contained kind := by
  cases ends : step.result with
  | ok result =>
      rw [andThen_of_ok ends]
      exact second step.state result first.1
  | error fault =>
      rw [andThen_of_error ends]
      refine ⟨first.1, ?_⟩
      intro escaping escapes
      cases escapes
      exact first.2 escaping ends

theorem Contained.mono {step : SinkStep State Result} {other : State → Prop}
    (contained : step.Contained kind) (implies : ∀ state, kind state → other state) :
    step.Contained other :=
  ⟨implies _ contained.1, contained.2⟩

end SinkStep

open SinkStep

theorem StandardSink.write_contained {sink : StandardSink} {disk : Disk} (tame : disk.trouble.Tame)
    (text : String) :
    (write (sink, disk) text).Contained fun after => after.2.trouble.Tame := by
  rcases Disk.writeAll_yields tame sink.descriptor (Utf8.encode text) with ⟨yields, kept⟩
  rw [← kept] at tame
  rw [write]
  split
  · rename_i after writes
    rw [writes] at tame
    exact contained_of_ok tame rfl
  · rename_i fault after writes
    rw [writes] at tame yields
    have isSystem : fault.isSystem = true := yields
    rw [if_pos isSystem]
    exact contained_of_ok tame rfl

namespace FileSink

variable {state : State}

/-- The calls of a file sink fail by the operating system only. -/
structure Sane (state : State) : Prop where
  disk : state.2.trouble.Tame
  path : Path.Zeroless state.1.path

theorem close_sane (sane : Sane state) :
    (close state).result = .ok () ∧ Sane (close state).state ∧
      (close state).state.1.isConnected = false := by
  rcases state with ⟨sink, disk⟩
  rcases sane with ⟨tame, zeroless⟩
  simp only [close]
  split
  · rename_i free
    have not_connected : sink.isConnected = false := by simp [isConnected, free]
    exact ⟨rfl, ⟨tame, zeroless⟩, not_connected⟩
  · rename_i descriptor held
    rcases Disk.close_yields tame descriptor with ⟨yields, kept⟩
    rw [← kept] at tame
    split
    · rename_i after closes
      rw [closes] at tame
      exact ⟨rfl, ⟨tame, zeroless⟩, rfl⟩
    · rename_i fault after closes
      rw [closes] at tame yields
      have isSystem : fault.isSystem = true := yields
      rw [if_pos isSystem]
      exact ⟨rfl, ⟨tame, zeroless⟩, rfl⟩

theorem close_contained (sane : Sane state) : (close state).Contained Sane := by
  rcases close_sane sane with ⟨ends_well, sane_after, -⟩
  exact contained_of_ok sane_after ends_well

theorem moveAside_contained (sane : Sane state) : (moveAside state).Contained Sane := by
  rcases state with ⟨sink, disk⟩
  rcases sane with ⟨tame, zeroless⟩
  have yields := Disk.rename_yields tame zeroless zeroless.old
  simp only [moveAside]
  split
  · rename_i after renames
    have kept := yields.of_ok renames
    rw [← kept] at tame
    exact contained_of_ok ⟨tame, zeroless⟩ rfl
  · rename_i fault fails
    have isSystem := yields.isSystem fails
    rw [if_pos isSystem]
    exact contained_of_ok ⟨tame, zeroless⟩ rfl

theorem openFile_contained (sane : Sane state) : (openFile state).Contained Sane := by
  rcases state with ⟨sink, disk⟩
  rcases sane with ⟨tame, zeroless⟩
  have yields := Disk.openAppend_yields tame zeroless fileMode
  simp only [openFile]
  split
  · rename_i after descriptor opens
    have kept : after.trouble = disk.trouble := yields.of_ok opens
    rw [← kept] at tame
    exact contained_of_ok ⟨tame, zeroless⟩ rfl
  · rename_i fault fails
    have isSystem := yields.isSystem fails
    rw [openFault, if_pos isSystem]
    refine ⟨⟨tame, zeroless⟩, ?_⟩
    intro escaping escapes
    cases escapes

theorem rotate_contained (sane : Sane state) : (rotate state).Contained Sane := by
  have moved := (close_contained sane).andThen fun state _ => moveAside_contained
  have opened := moved.andThen fun state _ => openFile_contained
  exact opened.andThen fun state _ sane_after => contained_of_ok sane_after rfl

theorem rotateIfNeeded_contained (sane : Sane state) : (rotateIfNeeded state).Contained Sane := by
  have yields := Disk.size_yields state.2 sane.path
  have known : ∀ fault, needsRotation state ≠ .error fault := by
    intro fault
    rw [needsRotation]
    split
    · simp
    · split
      · simp
      · rename_i reported fails
        rw [if_pos (yields.isSystem fails)]
        simp
  rw [rotateIfNeeded]
  split
  · exact rotate_contained sane
  · exact contained_of_ok sane rfl
  · rename_i fault fails
    exact absurd fails (known fault)

theorem append_yields {disk : Disk} (tame : disk.trouble.Tame) (descriptor : Nat) (text : String) :
    Yields (append disk descriptor text).1 (fun _ => True) ∧
      (append disk descriptor text).2.trouble = disk.trouble := by
  rcases Disk.writeAll_yields tame descriptor (Utf8.encode text) with ⟨yields, kept⟩
  rw [append]
  split
  · rename_i after writes
    rw [writes] at kept
    rw [← kept] at tame ⊢
    exact Disk.sync_yields tame descriptor
  · rename_i fault after writes
    rw [writes] at yields kept
    exact ⟨yields, kept⟩

theorem appendText_contained (sane : Sane state) (text : String) :
    (appendText state text).Contained Sane := by
  rcases state with ⟨sink, disk⟩
  rcases sane with ⟨tame, zeroless⟩
  simp only [appendText]
  split
  · exact contained_of_ok ⟨tame, zeroless⟩ rfl
  · rename_i descriptor held
    rcases append_yields tame descriptor text with ⟨yields, kept⟩
    rw [← kept] at tame
    split
    · rename_i after appends
      rw [appends] at tame
      exact contained_of_ok ⟨tame, zeroless⟩ rfl
    · rename_i fault after appends
      rw [appends] at tame yields
      have isSystem : fault.isSystem = true := yields
      rw [if_pos isSystem]
      exact contained_of_ok ⟨tame, zeroless⟩ rfl

theorem write_contained (sane : Sane state) (text : String) : (write state text).Contained Sane := by
  rw [write]
  split
  · exact (rotateIfNeeded_contained sane).andThen fun state _ sane_after =>
      appendText_contained sane_after text
  · exact contained_of_ok sane rfl

end FileSink

namespace Sink

/-- The calls of a sink fail by the operating system only. A file sink that is closed makes no calls
with its path. -/
def Tame : State → Prop
  | (standard _, disk) => disk.trouble.Tame
  | (file sink, disk) => disk.trouble.Tame ∧ (sink.isConnected = true → Path.Zeroless sink.path)
  | (network link, disk) => disk.trouble.Tame ∧ link.Sound

variable {state : State}

theorem tame_of_sane {sink : FileSink} {disk : Disk} (sane : FileSink.Sane (sink, disk)) :
    Tame (.file sink, disk) :=
  ⟨sane.disk, fun _ => sane.path⟩

theorem write_contained (tame : Tame state) (text : String) : (write state text).Contained Tame := by
  rcases state with ⟨sink | sink | link, disk⟩
  · exact (StandardSink.write_contained tame text).mono fun after tame_after => tame_after
  · by_cases connected : sink.isConnected = true
    · have sane : FileSink.Sane (sink, disk) := ⟨tame.1, tame.2 connected⟩
      exact (FileSink.write_contained sane text).mono fun after sane_after =>
        tame_of_sane sane_after
    · have refused : FileSink.write (sink, disk) text = .done (sink, disk) false := by
        rw [FileSink.write, if_neg connected]
      simp only [write, refused]
      exact contained_of_ok tame rfl
  · rcases Link.write_sound tame.2 text with ⟨⟨accepted, ends_well⟩, sound, -⟩
    have tame_after : Tame (.network (link.write text).state, disk) := ⟨tame.1, sound⟩
    exact contained_of_ok tame_after ends_well

theorem close_tame (tame : Tame state) :
    (close state).result = .ok () ∧ Tame (close state).state := by
  rcases state with ⟨sink | sink | link, disk⟩
  · exact ⟨rfl, tame⟩
  · by_cases connected : sink.isConnected = true
    · have sane : FileSink.Sane (sink, disk) := ⟨tame.1, tame.2 connected⟩
      rcases FileSink.close_sane sane with ⟨ends_well, sane_after, -⟩
      exact ⟨ends_well, tame_of_sane sane_after⟩
    · have stays : FileSink.close (sink, disk) = .done (sink, disk) () := by
        have free : sink.descriptor = none := by simpa [FileSink.isConnected] using connected
        simp [FileSink.close, free]
      simp only [close, stays]
      exact ⟨rfl, tame⟩
  · rcases Link.close_sound tame.2 with ⟨ends_well, sound, -⟩
    exact ⟨ends_well, tame.1, sound⟩

/-! ## What happens to a sink between texts -/

/-- What can happen to a sink whose calls fail by the operating system only: things come about for
its link, trouble lies ahead of it, others change the disk, its file is opened, or it is closed. -/
inductive Changes : State → State → Prop where
  | happened {link : Link} {disk : Disk} (event : LinkEvent) (tame : event.Tame) :
      Changes (.network link, disk) (.network (link.step event).state, disk)
  | troubled {link : Link} {disk : Disk} (trouble : LinkTrouble) (tame : trouble.Tame) :
      Changes (.network link, disk) (.network { link with trouble := trouble }, disk)
  | disturbed {sink : Sink} {before : Disk} (after : Disk) (tame : after.trouble.Tame) :
      Changes (sink, before) (sink, after)
  | opened {sink : FileSink} {disk : Disk} :
      Changes (.file sink, disk) (.file (FileSink.openFile (sink, disk)).state.1,
        (FileSink.openFile (sink, disk)).state.2)
  | closed {state : State} : Changes state (close state).state

theorem openFile_tame {sink : FileSink} {disk : Disk} (tame : Tame (.file sink, disk)) :
    Tame (.file (FileSink.openFile (sink, disk)).state.1,
      (FileSink.openFile (sink, disk)).state.2) := by
  simp only [FileSink.openFile]
  split
  · rename_i after descriptor opens
    have zeroless := Disk.zeroless_of_openAppend opens
    have kept : after.trouble = disk.trouble :=
      (Disk.openAppend_yields tame.1 zeroless FileSink.fileMode).of_ok opens
    have tame_after := tame.1
    rw [← kept] at tame_after
    exact ⟨tame_after, fun _ => zeroless⟩
  · exact tame

theorem Changes.tame {after : State} (changes : Changes state after) (tame : Tame state) :
    Tame after := by
  cases changes with
  | happened event tame_event => exact ⟨tame.1, (Link.step_sound tame.2 tame_event).2.1⟩
  | troubled trouble tame_trouble =>
      rcases tame with ⟨tame_disk, sound⟩
      exact ⟨tame_disk, tame_trouble, ⟨sound.books.accounts, sound.books.timers, sound.books.watched⟩,
        sound.phase, sound.balanced, sound.ended⟩
  | @disturbed sink before after tame_after =>
      cases sink with
      | standard sink => exact tame_after
      | file sink => exact ⟨tame_after, tame.2⟩
      | network link => exact ⟨tame_after, tame.2⟩
  | opened => exact openFile_tame tame
  | closed => exact (close_tame tame).2

theorem ofConfig_tame (config : Config) (output : Nat) {disk : Disk} (tame : disk.trouble.Tame) :
    Tame (ofConfig config output disk).state := by
  rw [ofConfig]
  cases kind : config.sinkKind with
  | standardOutput => exact tame
  | file path =>
      have closed_tame : Tame (.file (.closed path config.logSize), disk) :=
        ⟨tame, by simp [FileSink.closed, FileSink.isConnected]⟩
      exact openFile_tame closed_tame
  | network host port =>
      refine ⟨tame, Link.idle_start_sound _ ⟨?_, ?_, ?_⟩⟩ <;> simp [LinkTrouble.none]

end Sink

end LogRelay
