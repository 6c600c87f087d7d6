import LogRelay.Proofs.Sink.FileSteps
import Mathlib.Tactic.ByContra

/-!
# What a file sink keeps

A file sink is opened, given texts and closed in any order. As long as no call of the operating
system fails, nothing is lost, split or reordered: the files that were rotated out and the file at
the path hold together what was there in the beginning and all accepted texts in their order, each
whole in one file.

A file counts as rotated out when the path leads to another file than before (`rotatedOut`),
whatever the sink says about it. The invariant is `Kept`. One operation either continues the file at
the path (`Continues`) or replaces it (`Replaces`), and each of the two carries the invariant on.
-/

namespace LogRelay

/-! ## Files at paths -/

namespace Disk

/-- What the file at a path holds, if there is one. -/
def content? (disk : Disk) (text : String) : Option (List UInt8) :=
  (disk.read text).toOption

/-- What the file at a path holds, nothing if there is none. -/
def content (disk : Disk) (text : String) : List UInt8 :=
  (disk.content? text).getD []

/-- The number of the file at a path. -/
def fileAt? (disk : Disk) (text : String) : Option Nat :=
  match disk.find text with
  | .ok (_, .file number) => some number
  | _ => none

/-- What the file holds that was at a path before and is there no more. -/
def rotatedOut (before after : Disk) (text : String) : Option (List UInt8) :=
  match before.fileAt? text with
  | none => none
  | some number =>
      if after.fileAt? text = some number then none else (after.file? number).map File.content

variable {before after : Disk} {text : String} {location : Location}

theorem content_of_leads (sound : before.Sound) (leads : before.Leads text location) :
    before.content text = (before.contentAt? location).getD [] := by
  rw [content, content?, read_of_leads sound leads]

theorem fileAt?_eq_some_iff {number : Nat} (leads : before.Leads text location) :
    before.fileAt? text = some number ↔ before.node? location = some (.file number) := by
  rw [Leads] at leads
  cases at_location : before.node? location with
  | none => simp [fileAt?, find, leads, at_location]
  | some node =>
      cases node with
      | directory => simp [fileAt?, find, leads, at_location]
      | file other => simp [fileAt?, find, leads, at_location]

/-- The file at a path has grown, and that moved aside is the same. -/
structure Continues (before after : Disk) (text : String) (bytes : List UInt8) : Prop where
  content : after.content text = before.content text ++ bytes
  old : after.content? (text ++ ".old") = before.content? (text ++ ".old")
  none_out : before.rotatedOut after text = none

/-- The file at a path has been moved aside, and another is in its place. -/
structure Replaces (before after : Disk) (text : String) (bytes : List UInt8) : Prop where
  content : after.content text = bytes
  old : after.content? (text ++ ".old") = some (before.content text)
  out : before.rotatedOut after text = some (before.content text)

theorem Continues.refl (before : Disk) (text : String) : Continues before before text [] := by
  refine ⟨(List.append_nil _).symm, rfl, ?_⟩
  rw [rotatedOut]
  split
  · rfl
  · rename_i number is_file
    rw [if_pos is_file]

theorem Grows.continues {bytes : List UInt8} (sound : before.Sound)
    (leads : before.Leads text location) (grows : before.Grows after location bytes) :
    Continues before after text bytes := by
  have leads_after := leads.of_sameDirectories grows.directories
  refine ⟨?_, ?_, ?_⟩
  · rw [content_of_leads sound leads, content_of_leads grows.sound leads_after, grows.grown]
  · rw [content?, content?]
    rcases leads.old with ⟨old, leads_old, differs⟩ | ⟨fault, fails⟩
    · have leads_old_after := leads_old.of_sameDirectories grows.directories
      rw [read_of_leads sound leads_old, read_of_leads grows.sound leads_old_after,
        (grows.elsewhere old differs).2]
    · rcases leads_after.old with ⟨old, leads_old, -⟩ | ⟨fault_after, fails_after⟩
      · have leads_old_before := leads_old.of_sameDirectories grows.directories.symm
        rw [Leads, fails] at leads_old_before
        cases leads_old_before
      · rw [read_of_error fails, read_of_error fails_after]
  · rw [rotatedOut]
    split
    · rfl
    · rename_i number is_file
      have stays := grows.stays number ((fileAt?_eq_some_iff leads).mp is_file)
      rw [if_pos ((fileAt?_eq_some_iff leads_after).mpr stays)]

end Disk

namespace FileSink

open Disk

theorem Rotates.replaces {sink : FileSink} {before between after : Disk} {location old : Location}
    {number : Nat} {bytes : List UInt8} (sound : before.Sound)
    (leads : before.Leads sink.path location) (is_file : before.node? location = some (.file number))
    (leads_old : before.Leads sink.oldPath old)
    (rotates : Rotates before between location old number)
    (grows : between.Grows after location bytes) :
    Replaces before after sink.path bytes := by
  have directories : SameDirectories before after := by
    intro other
    rw [grows.directories, rotates.directories]
  have leads_after := leads.of_sameDirectories directories
  have leads_old_after := leads_old.of_sameDirectories directories
  rcases grows.elsewhere old rotates.differs with ⟨old_node, old_content⟩
  have kept : after.contentAt? old = some (before.content sink.path) := by
    rw [old_content, rotates.kept, content_of_leads sound leads]
  refine ⟨?_, ?_, ?_⟩
  · rw [content_of_leads grows.sound leads_after, grows.grown, rotates.emptied, List.nil_append]
  · have reads := read_of_leads grows.sound leads_old_after
    rw [kept] at reads
    exact reads
  · have moved : after.node? old = some (.file number) := by rw [old_node, rotates.moved]
    have was_there := (fileAt?_eq_some_iff leads).mpr is_file
    have not_there : after.fileAt? sink.path ≠ some number := by
      intro there
      have at_location := (fileAt?_eq_some_iff leads_after).mp there
      exact rotates.differs (grows.sound.single old location number moved at_location)
    rw [rotatedOut, was_there]
    simp only [not_there, if_false]
    rw [contentAt?, moved] at kept
    exact kept

/-! ## Histories -/

/-- What is done with a file sink. -/
inductive Operation where
  | openFile
  | write (text : String)
  | close
  deriving DecidableEq, Repr

/-- Carries out an operation. Only a write has an answer. -/
def perform (state : State) : Operation → SinkStep State Bool
  | .openFile => (FileSink.openFile state).andThen fun state _ => .done state false
  | .write text => FileSink.write state text
  | .close => (FileSink.close state).andThen fun state _ => .done state false

/-- The texts that an operation adds to those accepted: that of a write, if the answer is that it
was. -/
def Operation.accepted (operation : Operation) (answer : Except SinkFault Bool) : List String :=
  match operation, answer with
  | .write text, .ok true => [text]
  | _, _ => []

/-- A file sink and what it has come to: the texts that it accepted, the content of every file that
was rotated out, the rotations that it counted, and whether all steps were clean. -/
structure History where
  sink : FileSink
  disk : Disk
  accepted : List String
  rotated : List (List UInt8)
  rotations : Nat
  clean : Bool

namespace History

/-- The history with one more operation. -/
def step (history : History) (operation : Operation) : History :=
  let step := perform (history.sink, history.disk) operation
  { sink := step.state.1
    disk := step.state.2
    accepted := history.accepted ++ operation.accepted step.result
    rotated := history.rotated ++ (history.disk.rotatedOut step.state.2 history.sink.path).toList
    rotations := history.rotations + step.bumps.count .rotations
    clean := history.clean && step.isClean }

end History

/-- What some operations come to on a sink that is closed in the beginning. -/
def run (path : String) (rotateSize : Int) (disk : Disk) (operations : List Operation) : History :=
  operations.foldl History.step ⟨closed path rotateSize, disk, [], [], 0, true⟩

/-- The bytes of texts one after the other. -/
def bytesOf (texts : List String) : List UInt8 :=
  texts.flatMap Utf8.encode

theorem bytesOf_append (earlier later : List String) :
    bytesOf (earlier ++ later) = bytesOf earlier ++ bytesOf later :=
  List.flatMap_append

/-- Texts fall into groups, one for each file: the first file holds what was there in the beginning
and the texts of the first group, and every other file holds the texts of its group. -/
def Grouped (start : List UInt8) (texts : List String) (files : List (List UInt8)) : Prop :=
  ∃ first later, first ++ List.flatten later = texts ∧
    files = (start ++ bytesOf first) :: List.map bytesOf later

namespace Grouped

variable {start : List UInt8} {texts : List String} {files : List (List UInt8)}

/-- Together the files hold the beginning and all texts. -/
theorem flatten_eq (grouped : Grouped start texts files) :
    files.flatten = start ++ bytesOf texts := by
  rcases grouped with ⟨first, later, rfl, rfl⟩
  have in_groups : (later.map bytesOf).flatten = bytesOf later.flatten := by
    induction later with
    | nil => rfl
    | cons group later ih =>
        rw [List.map_cons, List.flatten_cons, ih, List.flatten_cons, bytesOf_append]
  rw [List.flatten_cons, in_groups, bytesOf_append, List.append_assoc]

/-- More texts go to the last file. -/
theorem continue_last {earlier_files : List (List UInt8)} {content : List UInt8}
    (grouped : Grouped start texts (earlier_files ++ [content])) (more : List String) :
    Grouped start (texts ++ more) (earlier_files ++ [content ++ bytesOf more]) := by
  rcases grouped with ⟨first, later, rfl, files_eq⟩
  rcases List.eq_nil_or_concat later with rfl | ⟨earlier, last, rfl⟩
  · have only_one : earlier_files ++ [content] = [] ++ [start ++ bytesOf first] := files_eq
    rcases List.append_inj' only_one rfl with ⟨rfl, same⟩
    cases same
    exact ⟨first ++ more, [], by simp, by simp [bytesOf_append]⟩
  · rw [List.concat_eq_append, List.map_append, ← List.cons_append] at files_eq
    rcases List.append_inj' files_eq rfl with ⟨rfl, same⟩
    cases same
    exact ⟨first, earlier ++ [last ++ more], by simp, by simp [bytesOf_append]⟩

/-- More texts go to a new file. -/
theorem next (grouped : Grouped start texts files) (more : List String) :
    Grouped start (texts ++ more) (files ++ [bytesOf more]) := by
  rcases grouped with ⟨first, later, rfl, rfl⟩
  exact ⟨first, later ++ [more], by simp, by simp⟩

end Grouped

/-- Nothing has been lost, split or put out of order since the disk was in its first state. -/
structure Kept (path : String) (rotateSize : Int) (disk : Disk) (history : History) : Prop where
  same_path : history.sink.path = path
  same_size : history.sink.rotateSize = rotateSize
  sound : history.disk.Sound
  ready : history.sink.isConnected = true →
    ∃ location number, Ready history.sink history.disk location number
  grouped : Grouped (disk.content path) history.accepted
    (history.rotated ++ [history.disk.content path])
  old : history.disk.content? (path ++ ".old") =
    history.rotated.getLast?.or (disk.content? (path ++ ".old"))
  large : ∀ content ∈ history.rotated, rotateSize < (content.length : Int)
  counted : history.rotations = history.rotated.length

theorem start_kept (path : String) (rotateSize : Int) {disk : Disk} (sound : disk.Sound) :
    Kept path rotateSize disk ⟨closed path rotateSize, disk, [], [], 0, true⟩ where
  same_path := rfl
  same_size := rfl
  sound := sound
  ready := by simp [closed, isConnected]
  grouped := ⟨[], [], rfl, by simp [bytesOf]⟩
  old := rfl
  large := by simp
  counted := rfl

section step

variable {path : String} {rotateSize : Int} {disk : Disk} {history after : History}

/-- A step without a rotation, after which the file at the path has grown by the texts accepted. -/
theorem Kept.continues (kept : Kept path rotateSize disk history) {operation : Operation}
    {after : State} {answer : Bool} {journal : Journal}
    (performs : perform (history.sink, history.disk) operation = ⟨after, .ok answer, journal, []⟩)
    (same_path : after.1.path = history.sink.path)
    (same_size : after.1.rotateSize = history.sink.rotateSize) (sound : after.2.Sound)
    (ready : after.1.isConnected = true → ∃ location number, Ready after.1 after.2 location number)
    (continues : history.disk.Continues after.2 path (bytesOf (operation.accepted (.ok answer)))) :
    Kept path rotateSize disk (history.step operation) := by
  have none_out := continues.none_out
  rw [← kept.same_path] at none_out
  rw [History.step, performs]
  simp only [none_out, Option.toList_none, List.append_nil]
  refine ⟨same_path.trans kept.same_path, same_size.trans kept.same_size, sound, ready, ?_, ?_,
    kept.large, ?_⟩
  · rw [continues.content]
    exact kept.grouped.continue_last _
  · rw [continues.old]
    exact kept.old
  · exact kept.counted

/-- A step with a rotation of a file that is large enough, after which the texts accepted are in a
new file. -/
theorem Kept.replaces (kept : Kept path rotateSize disk history) {operation : Operation}
    {after : State} {answer : Bool} {journal : Journal}
    (performs : perform (history.sink, history.disk) operation =
      ⟨after, .ok answer, journal, [.rotations]⟩)
    (same_path : after.1.path = history.sink.path)
    (same_size : after.1.rotateSize = history.sink.rotateSize) (sound : after.2.Sound)
    (ready : after.1.isConnected = true → ∃ location number, Ready after.1 after.2 location number)
    (large : rotateSize < ((history.disk.content path).length : Int))
    (replaces : history.disk.Replaces after.2 path (bytesOf (operation.accepted (.ok answer)))) :
    Kept path rotateSize disk (history.step operation) := by
  have out := replaces.out
  rw [← kept.same_path] at out
  rw [History.step, performs]
  simp only [out, Option.toList_some]
  rw [kept.same_path]
  refine ⟨same_path.trans kept.same_path, same_size.trans kept.same_size, sound, ready, ?_, ?_, ?_,
    ?_⟩
  · rw [replaces.content]
    exact kept.grouped.next _
  · rw [replaces.old]
    simp
  · intro content content_mem
    rcases List.mem_append.mp content_mem with earlier | last
    · exact kept.large content earlier
    · rw [List.mem_singleton.mp last]
      exact large
  · simp [kept.counted]

theorem History.clean_step {operation : Operation} (clean : (history.step operation).clean = true) :
    history.clean = true ∧ (perform (history.sink, history.disk) operation).isClean = true := by
  simpa [History.step] using clean

theorem openFile_kept (kept : Kept path rotateSize disk history)
    (clean : (perform (history.sink, history.disk) .openFile).isClean = true) :
    Kept path rotateSize disk (history.step .openFile) := by
  rcases openFile_clean kept.sound (SinkStep.isClean_andThen clean).1 with
    ⟨descriptor, opened, location, number, opens, leads, grows, ready⟩
  have performs : perform (history.sink, history.disk) .openFile =
      .noted ({ history.sink with descriptor := some descriptor }, opened)
        (history.sink.openedEntry descriptor) false := by
    rw [perform, opens]
    rfl
  rw [kept.same_path] at leads
  exact kept.continues performs rfl rfl grows.sound (fun _ => ⟨location, number, ready⟩)
    (grows.continues kept.sound leads)

theorem unchanged_kept (kept : Kept path rotateSize disk history) {operation : Operation}
    (performs : perform (history.sink, history.disk) operation =
      .done (history.sink, history.disk) false)
    (accepts_none : operation.accepted (.ok false) = []) :
    Kept path rotateSize disk (history.step operation) := by
  apply kept.continues performs rfl rfl kept.sound kept.ready
  rw [accepts_none]
  exact Continues.refl history.disk path

theorem close_kept (kept : Kept path rotateSize disk history)
    (clean : (perform (history.sink, history.disk) .close).isClean = true) :
    Kept path rotateSize disk (history.step .close) := by
  by_cases connected : history.sink.isConnected = true
  case neg =>
      have closed_before : history.sink.descriptor = none := by
        simpa [isConnected] using connected
      have performs : perform (history.sink, history.disk) .close =
          .done (history.sink, history.disk) false := by
        simp [perform, FileSink.close, closed_before]
      exact unchanged_kept kept performs rfl
  case pos =>
      rcases kept.ready connected with ⟨location, number, ready⟩
      rcases close_clean kept.sound (SinkStep.isClean_andThen clean).1 with ⟨closed, closes, grows⟩
      have performs : perform (history.sink, history.disk) .close =
          .done (history.sink.shut, closed) false := by
        rw [perform, closes, SinkStep.done_andThen]
      have leads := ready.leads
      rw [kept.same_path] at leads
      exact kept.continues performs rfl rfl (grows location).sound (by simp [isConnected, shut])
        ((grows location).continues kept.sound leads)

/-- A write to an open sink adds to a file that is small enough, or replaces one that is not. -/
theorem write_cases (kept : Kept path rotateSize disk history) (positive : 0 < rotateSize)
    (connected : history.sink.isConnected = true) {text : String}
    (clean : (perform (history.sink, history.disk) (.write text)).isClean = true) :
    ∃ after journal bumps,
      perform (history.sink, history.disk) (.write text) = ⟨after, .ok true, journal, bumps⟩ ∧
        after.1.path = history.sink.path ∧ after.1.rotateSize = history.sink.rotateSize ∧
        after.2.Sound ∧ (∃ location number, Ready after.1 after.2 location number) ∧
        (bumps = [] ∧ ((history.disk.content path).length : Int) ≤ rotateSize ∧
            history.disk.Continues after.2 path (bytesOf [text]) ∨
          bumps = [.rotations] ∧ rotateSize < ((history.disk.content path).length : Int) ∧
            history.disk.Replaces after.2 path (bytesOf [text])) := by
  rcases kept.ready connected with ⟨location, number, ready⟩
  have leads := ready.leads
  rw [kept.same_path] at leads
  have rotating : history.sink.rotateSize ≠ 0 := by
    rw [kept.same_size]
    omega
  have one_text : Utf8.encode text = bytesOf [text] := by simp [bytesOf]
  have size := content_of_leads kept.sound leads
  by_cases large : rotateSize < ((history.disk.content path).length : Int)
  · have large_file := large
    rw [size, ← kept.same_size] at large_file
    rcases write_clean_large kept.sound ready rotating large_file clean with
      ⟨descriptor, between, after, old, fresh, journal, writes, leads_old, moved, grows, ready_after⟩
    have replaces := moved.replaces kept.sound ready.leads ready.is_file leads_old grows
    rw [kept.same_path, one_text] at replaces
    exact ⟨_, journal, _, writes, rfl, rfl, grows.sound, ⟨location, fresh, ready_after⟩,
      Or.inr ⟨rfl, large, replaces⟩⟩
  · have small := Int.not_lt.mp large
    have small_file := small
    rw [size, ← kept.same_size] at small_file
    rcases write_clean_small kept.sound ready rotating small_file clean with
      ⟨after, writes, grows, ready_after⟩
    have continues := grows.continues kept.sound leads
    rw [one_text] at continues
    exact ⟨_, [], _, writes, rfl, rfl, grows.sound, ⟨location, number, ready_after⟩,
      Or.inl ⟨rfl, small, continues⟩⟩

theorem write_kept (kept : Kept path rotateSize disk history) (positive : 0 < rotateSize)
    {text : String} (clean : (perform (history.sink, history.disk) (.write text)).isClean = true) :
    Kept path rotateSize disk (history.step (.write text)) := by
  by_cases connected : history.sink.isConnected = true
  case neg =>
      have performs : perform (history.sink, history.disk) (.write text) =
          .done (history.sink, history.disk) false := by
        rw [perform, write, if_neg connected]
      exact unchanged_kept kept performs rfl
  case pos =>
      rcases write_cases kept positive connected clean with
        ⟨after, journal, bumps, performs, same_path, same_size, sound, ready, effect⟩
      rcases effect with ⟨rfl, -, continues⟩ | ⟨rfl, large, replaces⟩
      · exact kept.continues performs same_path same_size sound (fun _ => ready) continues
      · exact kept.replaces performs same_path same_size sound (fun _ => ready) large replaces

/-- A file exceeds the size by one text at most. -/
theorem write_bounded (kept : Kept path rotateSize disk history) (positive : 0 < rotateSize)
    {text : String} (clean : (perform (history.sink, history.disk) (.write text)).isClean = true)
    (accepted : (write (history.sink, history.disk) text).result = .ok true) :
    (((history.step (.write text)).disk.content path).length : Int) ≤
      rotateSize + (Utf8.encode text).length := by
  have one_text : bytesOf [text] = Utf8.encode text := by simp [bytesOf]
  have connected : history.sink.isConnected = true := by
    by_contra closed
    rw [write, if_neg closed] at accepted
    cases accepted
  rcases write_cases kept positive connected clean with
    ⟨after, journal, bumps, performs, -, -, -, -, effect⟩
  have reached : (history.step (.write text)).disk = after.2 := by rw [History.step, performs]
  rw [reached]
  rcases effect with ⟨-, small, continues⟩ | ⟨-, -, replaces⟩
  · rw [continues.content, one_text, List.length_append]
    omega
  · rw [replaces.content, one_text]
    omega

/-- No operation loses, splits or reorders anything. -/
theorem step_kept (kept : Kept path rotateSize disk history) (positive : 0 < rotateSize)
    {operation : Operation} (clean : (history.step operation).clean = true) :
    Kept path rotateSize disk (history.step operation) := by
  have clean_step := (History.clean_step clean).2
  cases operation with
  | openFile => exact openFile_kept kept clean_step
  | write text => exact write_kept kept positive clean_step
  | close => exact close_kept kept clean_step

end step

theorem run_concat (path : String) (rotateSize : Int) (disk : Disk) (operations : List Operation)
    (operation : Operation) :
    run path rotateSize disk (operations ++ [operation]) =
      (run path rotateSize disk operations).step operation := by
  rw [run, List.foldl_append]
  rfl

theorem run_kept {path : String} {rotateSize : Int} {disk : Disk} (positive : 0 < rotateSize)
    (sound : disk.Sound) {operations : List Operation}
    (clean : (run path rotateSize disk operations).clean = true) :
    Kept path rotateSize disk (run path rotateSize disk operations) := by
  induction operations using List.reverseRecOn with
  | nil => exact start_kept path rotateSize sound
  | append_singleton operations operation ih =>
      rw [run_concat] at clean ⊢
      exact step_kept (ih (History.clean_step clean).1) positive clean

/-- A file sink loses, splits and reorders nothing. Whatever a sound disk holds at its path and at the
old one in the beginning, and however the sink is opened, given texts and closed: as long as no call
of the operating system fails,
* the files rotated out and the file at the path hold what was there in the beginning and all accepted
  texts, in their order,
* every accepted text lies whole in one of these files,
* the old path holds what was rotated out last,
* every file that was rotated out had grown past the size,
* after a text was accepted the file at the path exceeds the size by that text at most,
* and every rotation was counted. -/
theorem run_keeps (path : String) (rotateSize : Int) (positive : 0 < rotateSize) (disk : Disk)
    (sound : disk.Sound) (operations : List Operation)
    (clean : (run path rotateSize disk operations).clean = true) :
    let history := run path rotateSize disk operations
    history.rotated.flatten ++ history.disk.content path =
        disk.content path ++ bytesOf history.accepted ∧
      Grouped (disk.content path) history.accepted
        (history.rotated ++ [history.disk.content path]) ∧
      history.disk.content? (path ++ ".old") =
        history.rotated.getLast?.or (disk.content? (path ++ ".old")) ∧
      (∀ content ∈ history.rotated, rotateSize < (content.length : Int)) ∧
      (∀ earlier text, operations = earlier ++ [.write text] →
        (write ((run path rotateSize disk earlier).sink, (run path rotateSize disk earlier).disk)
          text).result = .ok true →
        ((history.disk.content path).length : Int) ≤ rotateSize + (Utf8.encode text).length) ∧
      history.rotations = history.rotated.length := by
  intro history
  have kept : Kept path rotateSize disk history := run_kept positive sound clean
  refine ⟨?_, kept.grouped, kept.old, kept.large, ?_, kept.counted⟩
  · have together := kept.grouped.flatten_eq
    rw [List.flatten_append, List.flatten_singleton] at together
    exact together
  · intro earlier text last accepted
    have history_eq : history = (run path rotateSize disk earlier).step (.write text) := by
      rw [← run_concat, ← last]
    rw [last, run_concat] at clean
    rcases History.clean_step clean with ⟨clean_earlier, clean_write⟩
    rw [history_eq]
    exact write_bounded (run_kept positive sound clean_earlier) positive clean_write accepted

/-- A disk with a log of ten bytes and an older one of two. -/
def logDisk : Disk :=
  (((Disk.empty.create ["log"] fileMode).1.appendTo 0 (Utf8.encode "0123456789")).create
    ["log.old"] fileMode).1.appendTo 1 (Utf8.encode "ab")

theorem logDisk_sound : logDisk.Sound := by
  have root : ∀ disk : Disk, disk.node? [] = some .directory := fun _ => rfl
  have log : ((Disk.empty.create ["log"] fileMode).1.appendTo 0 (Utf8.encode "0123456789")).Sound :=
    (sound_empty.create (root _) rfl fileMode).appendTo 0 _
  exact (log.create (root _) rfl fileMode).appendTo 1 _

/-- Three texts, of which the first and the last find a file that has grown past four bytes. -/
def logOperations : List Operation :=
  [.openFile, .write "cd", .write "efg", .write "h", .close]

theorem run_keeps_logDisk :
    (run "log" 4 logDisk logOperations).clean = true ∧
      (run "log" 4 logDisk logOperations).rotated =
        [Utf8.encode "0123456789", Utf8.encode "cdefg"] ∧
      (run "log" 4 logDisk logOperations).rotations =
        (run "log" 4 logDisk logOperations).rotated.length := by
  have clean : (run "log" 4 logDisk logOperations).clean = true := by decide
  have keeps := run_keeps "log" 4 (by decide) logDisk logDisk_sound logOperations clean
  exact ⟨clean, by decide, keeps.2.2.2.2.2⟩

/-- A closed sink refuses a text and rotates nothing, so the file may exceed the size by more than
that. -/
theorem refused_write_exceeds :
    0 < (4 : Int) ∧ logDisk.Sound ∧ (run "log" 4 logDisk [.write "x"]).clean = true ∧
      ¬((((run "log" 4 logDisk [.write "x"]).disk.content "log").length : Int) ≤
        4 + (Utf8.encode "x").length) :=
  ⟨by decide, logDisk_sound, by decide, by decide⟩

end FileSink

end LogRelay
