import LogRelay.Proofs.Posix.Writing
import LogRelay.Sink.Choice

/-!
# Texts that are written in part

A text that goes to a file or to the standard output may be taken by any number of writes, and one
of them may fail, or the call that makes it permanent. What is left of it in the file are its first
bytes, and the answer tells whether that is all of them, for good (`Sink.write_appends_prefix`). The
sink stays as it is, and the next text goes behind what is left.
-/

namespace LogRelay

namespace Disk

/-- Bytes were put into a file, and made permanent if they are to be and all of them were taken. -/
structure Appends (disk : Disk) (number : Nat) (permanent : Bool) (bytes taken : List UInt8)
    (writes syncs : Nat) (ended : Except SystemFault Unit × Disk) : Prop where
  begins : taken <+: bytes
  few : writes ≤ bytes.length
  grown : ended.2 = (disk.appendTo number taken).called writes syncs
  whole : disk.trouble.Spares disk.calls.writes writes → taken = bytes
  once : syncs ≤ 1
  synced : syncs = 1 ↔ permanent = true ∧ disk.trouble.Spares disk.calls.writes writes
  ok_iff : ended.1 = .ok () ↔ disk.trouble.Spares disk.calls.writes writes ∧
    (permanent = true → disk.trouble.sync disk.calls.syncs = none)
  failed : ∀ fault, ended.1 = .error fault →
    (∃ made, (disk.trouble.write made).fault = some fault) ∨
      ∃ made, disk.trouble.sync made = some fault

variable {disk : Disk} {descriptor number : Nat}

theorem writeAll_appends (opened : disk.fileOf? descriptor = some number) (bytes : List UInt8) :
    ∃ taken writes, disk.Appends number false bytes taken writes 0
      (disk.writeAll descriptor bytes) := by
  rcases writeAll_progress opened bytes with ⟨taken, writes, progress⟩
  refine ⟨taken, writes, progress.begins, progress.few, progress.grown, ?_, Nat.zero_le 1, ?_, ?_, ?_⟩
  · intro spares
    exact progress.whole (progress.ok_iff.mpr spares)
  · simp
  · simpa using progress.ok_iff
  · intro fault fails
    exact .inl (progress.failed fault fails)

end Disk

namespace FileSink

variable {disk : Disk} {descriptor number : Nat}

theorem append_appends (opened : disk.fileOf? descriptor = some number) (text : String) :
    ∃ taken writes syncs, disk.Appends number true (Utf8.encode text) taken writes syncs
      (append disk descriptor text) := by
  rcases Disk.writeAll_progress opened (Utf8.encode text) with ⟨taken, writes, progress⟩
  rw [append]
  generalize disk.writeAll descriptor (Utf8.encode text) = ended at progress
  rcases ended with ⟨fault | done, between⟩
  -- A write has failed, and nothing is made permanent.
  · have not_spared : ¬disk.trouble.Spares disk.calls.writes writes := by
      rw [← progress.ok_iff]
      simp
    refine ⟨taken, writes, 0, progress.begins, progress.few, progress.grown, ?_, Nat.zero_le 1, ?_, ?_,
      ?_⟩
    · exact fun spares => absurd spares not_spared
    · simp [not_spared]
    · simp [not_spared]
    · intro other fails
      exact .inl (progress.failed other fails)
  -- All bytes are in the file, and one call follows.
  · have spared := progress.ok_iff.mp rfl
    have whole := progress.whole rfl
    have grown : between = (disk.appendTo number taken).called writes 0 := progress.grown
    subst grown
    have opened_between : ((disk.appendTo number taken).called writes 0).fileOf? descriptor =
        some number := opened
    refine ⟨taken, writes, 1, ?_⟩
    simp only [Disk.sync_eq opened_between]
    refine ⟨progress.begins, progress.few, Disk.called_called .., fun _ => whole, Nat.le_refl 1, ?_, ?_,
      ?_⟩
    · simp [spared]
    · rw [Trouble.meet_eq_ok_iff]
      simp only [spared, true_and, true_imp_iff]
      rfl
    · intro fault fails
      exact .inr ⟨_, Trouble.meet_eq_error_iff.mp fails⟩

end FileSink

namespace Sink

/-- The descriptor through which a sink writes texts. -/
def outlet? : Sink → Option Nat
  | standard sink => some sink.descriptor
  | file sink => sink.descriptor
  | network _ => none

/-- Whether a sink makes what it has written permanent. -/
def isPermanent : Sink → Bool
  | file _ => true
  | standard _ | network _ => false

/-- The sink writes to a file, and will not begin another one before the next text. -/
structure Holds (sink : Sink) (disk : Disk) (number : Nat) : Prop where
  opened : ∃ descriptor, sink.outlet? = some descriptor ∧ disk.fileOf? descriptor = some number
  stays : ∀ held, sink = .file held → FileSink.needsRotation (held, disk) = .ok false

/-- No trouble meets the next text if it has so many bytes. -/
structure Untroubled (sink : Sink) (disk : Disk) (size : Nat) : Prop where
  spares : disk.trouble.Spares disk.calls.writes size
  sync : sink.isPermanent = true → disk.trouble.sync disk.calls.syncs = none

variable {sink : Sink} {disk : Disk} {number : Nat}

theorem write_appends (holds : sink.Holds disk number) (text : String) :
    ∃ ended taken writes syncs,
      disk.Appends number sink.isPermanent (Utf8.encode text) taken writes syncs ended ∧
        ((∀ fault, ended.1 = .error fault → fault.isSystem = true) →
          (write (sink, disk) text).result = .ok ended.1.isOk ∧
            (write (sink, disk) text).state = (sink, ended.2)) := by
  rcases holds with ⟨⟨descriptor, writes_to, opened⟩, stays⟩
  cases sink with
  | standard sink =>
      cases writes_to
      rcases Disk.writeAll_appends opened (Utf8.encode text) with ⟨taken, writes, appends⟩
      refine ⟨_, taken, writes, 0, appends, ?_⟩
      intro system
      simp only [write, StandardSink.write]
      cases ends : disk.writeAll sink.descriptor (Utf8.encode text) with
      | mk result after =>
          cases result with
          | ok done => exact ⟨rfl, rfl⟩
          | error fault =>
              rw [ends] at system
              simp only [system fault rfl, if_true]
              exact ⟨rfl, rfl⟩
  | file sink =>
      have held : sink.descriptor = some descriptor := writes_to
      rcases FileSink.append_appends opened text with ⟨taken, writes, syncs, appends⟩
      refine ⟨_, taken, writes, syncs, appends, ?_⟩
      intro system
      have connected : sink.isConnected = true := by
        rw [FileSink.isConnected, held]
        rfl
      simp only [write, FileSink.write, connected, if_true, FileSink.rotateIfNeeded, stays sink rfl,
        SinkStep.done_andThen, FileSink.appendText, held]
      cases ends : FileSink.append disk descriptor text with
      | mk result after =>
          cases result with
          | ok done => exact ⟨rfl, rfl⟩
          | error fault =>
              rw [ends] at system
              simp only [system fault rfl, if_true]
              exact ⟨rfl, rfl⟩
  | network link => cases writes_to

theorem write_of_untroubled (holds : sink.Holds disk number) {text : String}
    (untroubled : sink.Untroubled disk (Utf8.encode text).length) :
    ∃ writes syncs, (write (sink, disk) text).result = .ok true ∧
      (write (sink, disk) text).state =
        (sink, (disk.appendTo number (Utf8.encode text)).called writes syncs) := by
  rcases write_appends holds text with ⟨⟨result, after⟩, taken, writes, syncs, appends, answers⟩
  have spares := untroubled.spares.mono appends.few
  have ends_well : result = .ok () := appends.ok_iff.mpr ⟨spares, untroubled.sync⟩
  subst ends_well
  rcases answers (by simp) with ⟨ends, becomes⟩
  refine ⟨writes, syncs, ends, ?_⟩
  rw [becomes, appends.grown, appends.whole spares]

/-- What is left of a text are its first bytes, and it is accepted if these are all of them for good.
The next text then goes behind them. -/
theorem write_appends_prefix (holds : sink.Holds disk number)
    (write_system : ∀ made fault,
      (disk.trouble.write made).fault = some fault → fault.isSystem = true)
    (sync_system : ∀ made fault, disk.trouble.sync made = some fault → fault.isSystem = true)
    (text : String) :
    ∃ taken writes syncs accepted,
      (write (sink, disk) text).result = .ok accepted ∧
        (write (sink, disk) text).state =
          (sink, (disk.appendTo number taken).called writes syncs) ∧
        taken <+: Utf8.encode text ∧ writes ≤ (Utf8.encode text).length ∧
        (disk.trouble.Spares disk.calls.writes writes → taken = Utf8.encode text) ∧
        syncs ≤ 1 ∧
        (syncs = 1 ↔ sink.isPermanent = true ∧ disk.trouble.Spares disk.calls.writes writes) ∧
        (accepted = true ↔ disk.trouble.Spares disk.calls.writes writes ∧
          (sink.isPermanent = true → disk.trouble.sync disk.calls.syncs = none)) ∧
        (accepted = true → taken = Utf8.encode text) ∧
        ∀ later other, sink.Holds later number →
          later.file? number = (disk.appendTo number taken).file? number →
          sink.Untroubled later (Utf8.encode other).length →
          ∃ after, (write (sink, later) other).result = .ok true ∧
            (write (sink, later) other).state = (sink, after) ∧
            after.file? number = (disk.file? number).map fun file =>
              { file with content := file.content ++ taken ++ Utf8.encode other } := by
  rcases write_appends holds text with ⟨⟨result, after⟩, taken, writes, syncs, appends, answers⟩
  have system : ∀ fault, result = .error fault → fault.isSystem = true := by
    intro fault fails
    rcases appends.failed fault fails with ⟨made, met⟩ | ⟨made, met⟩
    · exact write_system made fault met
    · exact sync_system made fault met
  rcases answers system with ⟨ends, becomes⟩
  have isOk_iff : result.isOk = true ↔ result = .ok () := by
    cases result <;> simp [Except.isOk, Except.toBool]
  refine ⟨taken, writes, syncs, result.isOk, ends, ?_, appends.begins, appends.few, appends.whole,
    appends.once, appends.synced, ?_, ?_, ?_⟩
  · rw [becomes, appends.grown]
  · rw [isOk_iff, appends.ok_iff]
  · intro accepted
    exact appends.whole (appends.ok_iff.mp (isOk_iff.mp accepted)).1
  · intro later other holds_later same untroubled
    rcases write_of_untroubled holds_later untroubled with ⟨more, more_syncs, accepts, grows⟩
    refine ⟨_, accepts, grows, ?_⟩
    have counted : ((later.appendTo number (Utf8.encode other)).called more more_syncs).file? number =
        (later.appendTo number (Utf8.encode other)).file? number := rfl
    rw [counted, Disk.file?_appendTo, same, Disk.file?_appendTo, Option.map_map]
    rfl

/-- A disk with an open file that takes two bytes at once, and whose second write finds no space. -/
def fullDisk : Disk :=
  { (Disk.empty.create ["log"] FileSink.fileMode).1 with
    descriptors := [(1, 0)]
    next := 2
    trouble := { Trouble.none with
      write := fun made =>
        ⟨some 2, if made = 1 then some (.numbered 28 "No space left on device") else none⟩ } }

/-- The first two bytes of a text are taken before there is no space, and the text is refused. When
there is space again, the next text goes behind them. -/
theorem write_appends_prefix_fullDisk :
    (file ⟨"log", 4, some 1⟩).Holds fullDisk 0 ∧
      (write (file ⟨"log", 4, some 1⟩, fullDisk) "abcd").result = .ok false ∧
      ∃ writes syncs after,
        (write (file ⟨"log", 4, some 1⟩, fullDisk) "abcd").state =
          (file ⟨"log", 4, some 1⟩, (fullDisk.appendTo 0 (Utf8.encode "ab")).called writes syncs) ∧
        (write (file ⟨"log", 4, some 1⟩,
          { fullDisk.appendTo 0 (Utf8.encode "ab") with trouble := .none }) "ef").state =
            (file ⟨"log", 4, some 1⟩, after) ∧
        after.file? 0 = some ⟨Utf8.encode "abef", FileSink.fileMode⟩ := by
  have holds : (file ⟨"log", 4, some 1⟩).Holds fullDisk 0 := by
    refine ⟨⟨1, rfl, rfl⟩, ?_⟩
    rintro held ⟨⟩
    rfl
  have write_system : ∀ made fault,
      (fullDisk.trouble.write made).fault = some fault → fault.isSystem = true := by
    intro made fault met
    by_cases second : made = 1
    · simp [fullDisk, second] at met
      rw [← met]
      rfl
    · simp [fullDisk, second] at met
  rcases write_appends_prefix holds write_system (by simp [fullDisk, Trouble.none]) "abcd" with
    ⟨taken, writes, syncs, accepted, -, becomes, -, -, -, -, -, -, -, goes_on⟩
  have content : (fullDisk.appendTo 0 taken).file? 0 = some ⟨Utf8.encode "ab", FileSink.fileMode⟩ :=
    congrArg (fun state => state.2.file? 0) becomes.symm
  have first : taken = Utf8.encode "ab" := by
    have nothing : fullDisk.file? 0 = some ⟨[], FileSink.fileMode⟩ := rfl
    rw [Disk.file?_appendTo, nothing] at content
    simpa using content
  subst first
  rcases goes_on { fullDisk.appendTo 0 (Utf8.encode "ab") with trouble := .none } "ef"
    ⟨⟨1, rfl, rfl⟩, by rintro held ⟨⟩; rfl⟩ rfl ⟨fun _ _ _ => rfl, fun _ => rfl⟩ with
    ⟨after, -, goes, content_after⟩
  exact ⟨holds, rfl, writes, syncs, after, becomes, goes, content_after⟩

end Sink

end LogRelay
