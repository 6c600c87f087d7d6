import LogRelay.Proofs.Sink.Appending
import LogRelay.Proofs.Sink.RotationSteps

/-!
# Clean steps of the file sink

A step is clean if no call of the operating system failed in it, as far as anyone can tell: it ended
well, and no warning was noted (`SinkStep.isClean`). For each operation of the file sink it is said
what a clean step of it does to a sound disk. A text is appended to the file at the path
(`appendText_clean`), and a rotation moves that file to the old path and leaves an empty one
(`rotate_clean`). Both keep an open sink ready: its descriptor belongs to the file at its path
(`Ready`).
-/

namespace LogRelay

namespace SinkStep

variable {State Result Other : Type}

/-- The step ended well, and nothing that it noted is as grave as a warning. -/
def isClean (step : SinkStep State Result) : Bool :=
  match step.result with
  | .ok _ => step.journal.all fun entry => decide (entry.level.rank < Level.warning.rank)
  | .error _ => false

theorem isClean_andThen {step : SinkStep State Result}
    {next : State → Result → SinkStep State Other} (clean : (step.andThen next).isClean = true) :
    step.isClean = true ∧
      ∃ result, step.result = .ok result ∧ (next step.state result).isClean = true := by
  cases ends : step.result with
  | error fault =>
      rw [andThen_of_error ends] at clean
      cases clean
  | ok result =>
      rw [andThen_of_ok ends] at clean
      cases ends_next : (next step.state result).result with
      | error fault => simp [isClean, ends_next] at clean
      | ok other =>
          simp only [isClean, ends_next, List.all_append, Bool.and_eq_true] at clean
          refine ⟨?_, result, rfl, ?_⟩
          · simp only [isClean, ends]
            exact clean.1
          · simp only [isClean, ends_next]
            exact clean.2

end SinkStep

namespace FileSink

variable {sink : FileSink} {disk : Disk}

/-- The descriptor of an open sink belongs to the file at its path. -/
structure Ready (sink : FileSink) (disk : Disk) (location : Location) (number : Nat) : Prop where
  leads : disk.Leads sink.path location
  is_file : disk.node? location = some (.file number)
  opened : ∃ descriptor, sink.descriptor = some descriptor ∧ disk.fileOf? descriptor = some number

theorem Ready.isConnected {location : Location} {number : Nat}
    (ready : Ready sink disk location number) : sink.isConnected = true := by
  rcases ready.opened with ⟨descriptor, descriptor_eq, -⟩
  rw [FileSink.isConnected, descriptor_eq]
  rfl

/-- Opening a file may create it, and makes the sink ready. -/
theorem openFile_clean (sound : disk.Sound) (clean : (openFile (sink, disk)).isClean = true) :
    ∃ descriptor after location number,
      openFile (sink, disk) = .noted ({ sink with descriptor := some descriptor }, after)
          (sink.openedEntry descriptor) () ∧
        disk.Leads sink.path location ∧ disk.Grows after location [] ∧
        Ready { sink with descriptor := some descriptor } after location number := by
  cases opens : disk.openAppend sink.path fileMode with
  | error fault => simp [openFile, opens, SinkStep.isClean, SinkStep.failed] at clean
  | ok opened =>
      rcases opened with ⟨after, descriptor⟩
      rcases Disk.openAppend_eq_ok sound opens with ⟨location, number, leads, grows, is_file, opened⟩
      refine ⟨descriptor, after, location, number, by simp [openFile, opens], leads, grows, ?_⟩
      exact ⟨leads.of_sameDirectories grows.directories, is_file, descriptor, rfl, opened⟩

/-- Closing a sink changes no file. -/
theorem grows_released (sound : disk.Sound) (sink : FileSink) (location : Location) :
    disk.Grows (sink.released disk) location [] := by
  rcases released_same sink disk with ⟨entries, files, next⟩
  exact (Disk.Grows.refl sound location).same_files entries files (Nat.le_of_eq next.symm)

theorem close_clean (sound : disk.Sound) (clean : (close (sink, disk)).isClean = true) :
    ∃ after, close (sink, disk) = .done (sink.shut, after) () ∧
      ∀ location, disk.Grows after location [] := by
  rcases close_cases sink disk with ⟨fault, fails, -⟩ | closes
  · simp [SinkStep.isClean, fails] at clean
  · exact ⟨sink.released disk, closes, grows_released sound sink⟩

theorem append_eq_ok {descriptor number : Nat} {text : String} {after : Disk}
    (opened : disk.fileOf? descriptor = some number)
    (ends_well : append disk descriptor text = (.ok (), after)) :
    ∃ calls, after = { disk.appendTo number (Utf8.encode text) with calls := calls } := by
  rcases append_appends opened text with ⟨taken, writes, syncs, appends⟩
  have grown := appends.grown
  rw [ends_well] at appends grown
  have spares := (appends.ok_iff.mp rfl).1
  rw [appends.whole spares] at grown
  exact ⟨_, grown⟩

/-- Text is appended to the file at the path. -/
theorem appendText_clean {location : Location} {number : Nat} {text : String} (sound : disk.Sound)
    (ready : Ready sink disk location number)
    (clean : (appendText (sink, disk) text).isClean = true) :
    ∃ after, appendText (sink, disk) text = .done (sink, after) true ∧
      disk.Grows after location (Utf8.encode text) ∧ Ready sink after location number := by
  rcases ready with ⟨leads, is_file, descriptor, descriptor_eq, opened⟩
  cases appends : append disk descriptor text with
  | mk result after =>
      cases result with
      | error fault =>
          simp only [appendText, descriptor_eq, appends] at clean
          split at clean <;> cases clean
      | ok appended =>
          rcases append_eq_ok opened appends with ⟨calls, rfl⟩
          have appended := Disk.Grows.appendTo sound is_file (Utf8.encode text)
          refine ⟨{ disk.appendTo number (Utf8.encode text) with calls := calls }, ?_, ?_,
            ?_, is_file, descriptor, descriptor_eq, opened⟩
          · simp only [appendText, descriptor_eq, appends]
          · exact appended.same_files rfl rfl (Nat.le_refl _)
          · exact leads.of_sameDirectories appended.directories

/-- The file at the location is now at the old one, and nothing is left of it in its place. -/
structure Rotates (before after : Disk) (location old : Location) (number : Nat) : Prop where
  sound : after.Sound
  directories : Disk.SameDirectories before after
  differs : old ≠ location
  moved : after.node? old = some (.file number)
  kept : after.contentAt? old = some ((before.contentAt? location).getD [])
  emptied : (after.contentAt? location).getD [] = []

namespace Rotates

variable {before between after : Disk} {location old : Location} {number : Nat}

theorem of_move (sound : before.Sound) {text : String} (leads_old : before.Leads text old)
    (differs : old ≠ location) (is_file : before.node? location = some (.file number))
    (replaceable : before.node? old ≠ some .directory) :
    Rotates before (before.move location old) location old number := by
  have away : location ≠ old := Ne.symm differs
  rcases leads_old.exists_parent with ⟨parent, name, rfl, directory⟩
  rcases sound.held location number is_file with ⟨file, found⟩
  have content : before.contentAt? location = some file.content := by
    simp [Disk.contentAt?, is_file, found]
  have moved_content := Disk.contentAt?_move sound away is_file replaceable
  refine ⟨sound.move away is_file directory replaceable,
    Disk.sameDirectories_move sound away is_file replaceable, differs, ?_, ?_, ?_⟩
  · rw [Disk.node?_move sound away is_file replaceable, if_pos rfl]
  · simp [moved_content, content]
  · simp [moved_content, away]

/-- The file may grow before it is moved, if only by nothing. -/
theorem after_grows (grows : before.Grows between location [])
    (rotates : Rotates between after location old number) :
    Rotates before after location old number := by
  have same_content := grows.grown
  rw [List.append_nil] at same_content
  refine ⟨rotates.sound, ?_, rotates.differs, rotates.moved, ?_, rotates.emptied⟩
  · intro other
    rw [rotates.directories, grows.directories]
  · rw [rotates.kept, same_content]

/-- A new file may be created where the other one was. -/
theorem before_grows (rotates : Rotates before between location old number)
    (grows : between.Grows after location []) : Rotates before after location old number := by
  rcases grows.elsewhere old rotates.differs with ⟨old_node, old_content⟩
  refine ⟨grows.sound, ?_, rotates.differs, ?_, ?_, ?_⟩
  · intro other
    rw [grows.directories, rotates.directories]
  · rw [old_node, rotates.moved]
  · rw [old_content, rotates.kept]
  · rw [grows.grown, rotates.emptied, List.append_nil]

end Rotates

/-- A rotation leaves the sink ready for the new file at its path. -/
theorem rotate_clean {location : Location} {number : Nat} (sound : disk.Sound)
    (ready : Ready sink disk location number) (clean : (rotate (sink, disk)).isClean = true) :
    ∃ descriptor after old fresh journal,
      rotate (sink, disk) =
          ⟨({ sink with descriptor := some descriptor }, after), .ok (), journal, [.rotations]⟩ ∧
        disk.Leads sink.oldPath old ∧ Rotates disk after location old number ∧
        Ready { sink with descriptor := some descriptor } after location fresh := by
  rcases rotate_cases sink disk with ⟨fault, fails, -⟩ | ⟨between, journal, cleared, ends⟩
  · simp [SinkStep.isClean, fails] at clean
  rcases ends with ⟨fault, opening, -, rotated⟩ | ⟨after, descriptor, opens, rotated⟩
  · rw [rotated] at clean
    cases clean
  cases cleared with
  | stayed fails warns =>
      rw [rotated] at clean
      simp [SinkStep.isClean, warns] at clean
  | moved renames =>
      have unchanged := grows_released sound sink location
      have leads := ready.leads.of_sameDirectories unchanged.directories
      have is_file := unchanged.stays number ready.is_file
      rcases Disk.rename_old_eq_ok unchanged.sound leads is_file renames with
        ⟨old, leads_old, differs, replaceable, rfl⟩
      have moved := Rotates.of_move unchanged.sound leads_old differs is_file replaceable
      rcases Disk.openAppend_eq_ok moved.sound opens with
        ⟨reached, fresh, leads_reached, grows, is_fresh, opened⟩
      have same_place : reached = location :=
        leads_reached.unique (leads.of_sameDirectories moved.directories)
      subst same_place
      refine ⟨descriptor, after, old, fresh, _, rotated, ?_, ?_, ?_⟩
      · exact leads_old.of_sameDirectories unchanged.directories.symm
      · exact (moved.after_grows unchanged).before_grows grows
      · exact ⟨leads_reached.of_sameDirectories grows.directories, is_fresh, descriptor, rfl, opened⟩

theorem needsRotation_ready {location : Location} {number : Nat} (sound : disk.Sound)
    (ready : Ready sink disk location number) (rotates : sink.rotateSize ≠ 0) :
    needsRotation (sink, disk) =
      .ok (decide (sink.rotateSize < (((disk.contentAt? location).getD []).length : Int))) := by
  have size := Disk.size_of_leads sound ready.leads ready.is_file
  simp [needsRotation, rotates, size]

/-- A text goes to the file at the path as it is, if that has not grown past the size. -/
theorem write_clean_small {location : Location} {number : Nat} {text : String} (sound : disk.Sound)
    (ready : Ready sink disk location number) (rotates : sink.rotateSize ≠ 0)
    (small : (((disk.contentAt? location).getD []).length : Int) ≤ sink.rotateSize)
    (clean : (write (sink, disk) text).isClean = true) :
    ∃ after, write (sink, disk) text = .done (sink, after) true ∧
      disk.Grows after location (Utf8.encode text) ∧ Ready sink after location number := by
  have stays : rotateIfNeeded (sink, disk) = .done (sink, disk) () := by
    rw [rotateIfNeeded, needsRotation_ready sound ready rotates,
      decide_eq_false (Int.not_lt.mpr small)]
  have writes : write (sink, disk) text = appendText (sink, disk) text := by
    rw [write, if_pos ready.isConnected, stays, SinkStep.done_andThen]
  rw [writes] at clean ⊢
  exact appendText_clean sound ready clean

/-- A text goes to a new file at the path after a rotation, if the file there has grown past the
size. -/
theorem write_clean_large {location : Location} {number : Nat} {text : String} (sound : disk.Sound)
    (ready : Ready sink disk location number) (rotating : sink.rotateSize ≠ 0)
    (large : sink.rotateSize < (((disk.contentAt? location).getD []).length : Int))
    (clean : (write (sink, disk) text).isClean = true) :
    ∃ descriptor between after old fresh journal,
      write (sink, disk) text =
          ⟨({ sink with descriptor := some descriptor }, after), .ok true, journal, [.rotations]⟩ ∧
        disk.Leads sink.oldPath old ∧ Rotates disk between location old number ∧
        between.Grows after location (Utf8.encode text) ∧
        Ready { sink with descriptor := some descriptor } after location fresh := by
  have moves : rotateIfNeeded (sink, disk) = rotate (sink, disk) := by
    rw [rotateIfNeeded, needsRotation_ready sound ready rotating, decide_eq_true large]
  have writes : write (sink, disk) text =
      (rotate (sink, disk)).andThen fun state _ => appendText state text := by
    rw [write, if_pos ready.isConnected, moves]
  rw [writes] at clean ⊢
  rcases SinkStep.isClean_andThen clean with ⟨clean_rotate, -, -, clean_append⟩
  rcases rotate_clean sound ready clean_rotate with
    ⟨descriptor, between, old, fresh, journal, rotates, leads_old, rotated, ready_between⟩
  rw [rotates] at clean_append ⊢
  rcases appendText_clean rotated.sound ready_between clean_append with
    ⟨after, appends, grows, ready_after⟩
  rw [SinkStep.andThen_of_ok rfl, appends]
  exact ⟨descriptor, between, after, old, fresh, _, rfl, leads_old, rotated, grows, ready_after⟩

end FileSink

end LogRelay
