import LogRelay.Posix.Disk
import Mathlib.Data.List.Induction
import Mathlib.Tactic.ByContra

/-!
# Sound disks

On a sound disk every entry lies in a directory, every entry of a file has a file of its own, and
the numbers of files are below the next one (`Sound`). So nothing lies below a file, a new file is
really new, and what is appended to one file shows at one location only.

Creating, appending to and moving files keep a disk sound, and each is described by what it makes of
the locations: `contentAt?_create`, `contentAt?_appendTo` and `contentAt?_move`.
-/

namespace LogRelay.Disk

/-! ## Looking up -/

theorem lookup_cons_of_ne {Key Value : Type} [BEq Key] [LawfulBEq Key] {key other : Key}
    (differs : key ≠ other) (value : Value) (entries : List (Key × Value)) :
    ((other, value) :: entries).lookup key = entries.lookup key := by
  rw [List.lookup_cons, beq_eq_false_iff_ne.mpr differs]

theorem lookup_filter_ne {Key Value : Type} [BEq Key] [LawfulBEq Key] [DecidableEq Key]
    (entries : List (Key × Value)) (left_out key : Key) :
    (entries.filter fun (other, _) => other ≠ left_out).lookup key =
      if key = left_out then none else entries.lookup key := by
  induction entries with
  | nil => simp
  | cons entry entries ih =>
      rcases entry with ⟨other, value⟩
      by_cases is_left_out : other = left_out
      · rw [List.filter_cons_of_neg (by simpa using is_left_out), ih]
        by_cases same : key = left_out
        · rw [if_pos same, if_pos same]
        · rw [lookup_cons_of_ne (by rwa [is_left_out])]
      · rw [List.filter_cons_of_pos (by simpa using is_left_out)]
        by_cases same : key = other
        · subst same
          simp [is_left_out]
        · rw [lookup_cons_of_ne same, lookup_cons_of_ne same, ih]

theorem node?_ne_none_of_mem {disk : Disk} {location : Location} {node : Node}
    (entry_mem : (location, node) ∈ disk.entries) : disk.node? location ≠ none := by
  rw [node?]
  split
  · simp
  · intro absent
    rw [List.lookup_eq_none_iff] at absent
    simpa using absent _ entry_mem

theorem node?_enter {disk : Disk} {location : Location} (free : disk.node? location = none)
    (node : Node) (other : Location) :
    (disk.enter location node).node? other =
      if other = location then some node else disk.node? other := by
  have not_special : ¬(location = [] ∨ location = [Path.root]) := by
    intro special
    simp [node?, special] at free
  by_cases same : other = location
  · subst same
    simp [node?, not_special, enter]
  · rw [if_neg same]
    simp only [node?, enter]
    rw [lookup_cons_of_ne same, forget, lookup_filter_ne, if_neg same]

theorem file?_updateFile (disk : Disk) (number : Nat) (change : File → File) (other : Nat) :
    (disk.updateFile number change).file? other =
      if other = number then (disk.file? other).map change else disk.file? other := by
  simp only [file?, updateFile]
  induction disk.files with
  | nil => simp
  | cons entry files ih =>
      rcases entry with ⟨found, file⟩
      by_cases same : other = found
      · subst same
        by_cases changed : other = number <;> simp [changed]
      · rw [List.map_cons, lookup_cons_of_ne same, lookup_cons_of_ne same, ih]

theorem updateFile_updateFile (disk : Disk) (number : Nat) (first second : File → File) :
    (disk.updateFile number first).updateFile number second =
      disk.updateFile number (second ∘ first) := by
  simp only [updateFile, List.map_map]
  congr 2
  funext entry
  by_cases same : entry.1 = number <;> simp [same]

/-! ## Sound disks -/

/-- Every entry lies in a directory, every entry of a file has a file, which no other entry has, and
the numbers of files are below the next number. -/
structure Sound (disk : Disk) : Prop where
  rooted : ∀ location name, disk.node? (location ++ [name]) ≠ none →
    disk.node? location = some .directory
  held : ∀ location number, disk.node? location = some (.file number) →
    ∃ file, disk.file? number = some file
  single : ∀ location other number, disk.node? location = some (.file number) →
    disk.node? other = some (.file number) → location = other
  numbered : ∀ number file, disk.file? number = some file → number < disk.next

theorem sound_empty : empty.Sound := by
  have only_directories : ∀ location, empty.node? location ≠ none →
      location = [] ∨ location = [Path.root] := by
    intro location present
    by_contra elsewhere
    exact present (if_neg elsewhere)
  have no_file : ∀ location number, empty.node? location ≠ some (.file number) := by
    intro location number is_file
    rcases only_directories location (by simp [is_file]) with rfl | rfl <;> cases is_file
  refine ⟨?_, ?_, ?_, ?_⟩
  · intro location name present
    rcases only_directories _ present with nothing | root
    · simp at nothing
    · have in_root : location ++ [name] = [] ++ [Path.root] := root
      rw [(List.append_inj' in_root rfl).1]
      rfl
  · exact fun location number is_file => absurd is_file (no_file location number)
  · exact fun location _ number is_file => absurd is_file (no_file location number)
  · intro number file found
    cases found

namespace Sound

variable {disk : Disk}

/-- A disk with the same entries and files, and perhaps more numbers used, is as sound. -/
theorem congr (sound : disk.Sound) {other : Disk} (entries : other.entries = disk.entries)
    (files : other.files = disk.files) (next : disk.next ≤ other.next) : other.Sound := by
  have same_node : ∀ location, other.node? location = disk.node? location := by
    intro location
    simp only [node?, entries]
  have same_file : ∀ number, other.file? number = disk.file? number := by
    intro number
    simp only [file?, files]
  refine ⟨?_, ?_, ?_, ?_⟩
  · intro location name
    rw [same_node, same_node]
    exact sound.rooted location name
  · intro location number
    rw [same_node, same_file]
    exact sound.held location number
  · intro location location' number
    rw [same_node, same_node]
    exact sound.single location location' number
  · intro number file
    rw [same_file]
    intro found
    exact Nat.lt_of_lt_of_le (sound.numbered number file found) next

/-- The locations on the way to an entry are directories. -/
theorem directory_above (sound : disk.Sound) {location : Location} (below : List String)
    (nonempty : below ≠ []) (present : disk.node? (location ++ below) ≠ none) :
    disk.node? location = some .directory := by
  induction below using List.reverseRecOn with
  | nil => exact absurd rfl nonempty
  | append_singleton below name ih =>
      rw [← List.append_assoc] at present
      have parent := sound.rooted _ _ present
      rcases below with _ | ⟨first, rest⟩
      · rwa [List.append_nil] at parent
      · apply ih <;> simp [parent]

/-- Nothing lies below a file. -/
theorem bare (sound : disk.Sound) {location : Location} {number : Nat}
    (is_file : disk.node? location = some (.file number)) {entry : Location × Node}
    (entry_mem : entry ∈ disk.entries) (below : location <+: entry.1) : entry.1 = location := by
  rcases below with ⟨rest, reaches⟩
  rcases rest with _ | ⟨first, rest⟩
  · rw [← reaches, List.append_nil]
  · have present : disk.node? (location ++ first :: rest) ≠ none := by
      rw [reaches]
      exact node?_ne_none_of_mem entry_mem
    rw [sound.directory_above _ (by simp) present] at is_file
    cases is_file

end Sound

/-! ## Creating a file -/

section create

variable {disk : Disk} {location : Location}

theorem node?_create (free : disk.node? location = none) (mode : Nat) (other : Location) :
    (disk.create location mode).1.node? other =
      if other = location then some (.file disk.next) else disk.node? other :=
  node?_enter free (.file disk.next) other

theorem file?_create (mode number : Nat) :
    (disk.create location mode).1.file? number =
      if number = disk.next then some ⟨[], mode⟩ else disk.file? number := by
  simp only [file?, create]
  by_cases same : number = disk.next
  · rw [if_pos same, same, List.lookup_cons_self]
  · rw [if_neg same, lookup_cons_of_ne same]

/-- The number of a new file belongs to no entry. -/
theorem Sound.number_ne_next (sound : disk.Sound) {other : Location} {number : Nat}
    (is_file : disk.node? other = some (.file number)) : number ≠ disk.next := by
  rcases sound.held other number is_file with ⟨file, found⟩
  exact Nat.ne_of_lt (sound.numbered number file found)

theorem Sound.create (sound : disk.Sound) {parent : Location} {name : String}
    (parent_directory : disk.node? parent = some .directory)
    (free : disk.node? (parent ++ [name]) = none) (mode : Nat) :
    (disk.create (parent ++ [name]) mode).1.Sound := by
  refine ⟨?_, ?_, ?_, ?_⟩
  · intro above below present
    rw [node?_create free] at present ⊢
    have directory : disk.node? above = some .directory := by
      split at present
      · rename_i same
        rw [(List.append_inj' same rfl).1]
        exact parent_directory
      · exact sound.rooted above below present
    have differs : above ≠ parent ++ [name] := by
      intro same
      rw [same, free] at directory
      cases directory
    rw [if_neg differs, directory]
  · intro other number is_file
    rw [node?_create free] at is_file
    rw [file?_create]
    split at is_file
    · cases is_file
      exact ⟨⟨[], mode⟩, if_pos rfl⟩
    · rw [if_neg (sound.number_ne_next is_file)]
      exact sound.held other number is_file
  · intro first second number first_file second_file
    rw [node?_create free] at first_file second_file
    split at first_file
    · split at second_file
      · rename_i first_same second_same
        rw [first_same, second_same]
      · cases first_file
        exact absurd rfl (sound.number_ne_next second_file)
    · split at second_file
      · cases second_file
        exact absurd rfl (sound.number_ne_next first_file)
      · exact sound.single first second number first_file second_file
  · intro number file found
    rw [file?_create] at found
    have next : (disk.create (parent ++ [name]) mode).1.next = disk.next + 1 := rfl
    rw [next]
    split at found
    · omega
    · have below := sound.numbered number file found
      omega

theorem contentAt?_create (sound : disk.Sound) (free : disk.node? location = none) (mode : Nat)
    (other : Location) :
    (disk.create location mode).1.contentAt? other =
      if other = location then some [] else disk.contentAt? other := by
  rw [contentAt?, node?_create free]
  by_cases same : other = location
  · simp [same, file?_create]
  · simp only [same, if_false, contentAt?]
    cases at_other : disk.node? other with
    | none => rfl
    | some node =>
        cases node with
        | directory => rfl
        | file number =>
            simp only
            rw [file?_create, if_neg (sound.number_ne_next at_other)]

end create

/-! ## Appending to a file -/

section append

variable {disk : Disk}

/-- The disk with bytes appended to a file. -/
def appendTo (disk : Disk) (number : Nat) (bytes : List UInt8) : Disk :=
  disk.updateFile number fun file => { file with content := file.content ++ bytes }

theorem appendTo_nil (disk : Disk) (number : Nat) : disk.appendTo number [] = disk := by
  have unchanged : ∀ entry : Nat × File,
      (entry.1, if entry.1 = number then { entry.2 with content := entry.2.content ++ [] }
        else entry.2) = entry := by
    intro entry
    simp
  simp only [appendTo, updateFile, unchanged, List.map_id']

theorem appendTo_appendTo (disk : Disk) (number : Nat) (first second : List UInt8) :
    (disk.appendTo number first).appendTo number second = disk.appendTo number (first ++ second) := by
  rw [appendTo, appendTo, updateFile_updateFile, appendTo]
  congr 1
  funext file
  simp

theorem Sound.appendTo (sound : disk.Sound) (number : Nat) (bytes : List UInt8) :
    (disk.appendTo number bytes).Sound := by
  refine ⟨sound.rooted, ?_, sound.single, ?_⟩
  · intro location other is_file
    rcases sound.held location other is_file with ⟨file, found⟩
    rw [Disk.appendTo, file?_updateFile, found]
    split <;> simp
  · intro other file found
    rw [Disk.appendTo, file?_updateFile] at found
    cases before : disk.file? other with
    | none => simp [before] at found
    | some file => exact sound.numbered other file before

/-- What is appended to a file shows at its location only. -/
theorem contentAt?_appendTo (sound : disk.Sound) {location : Location} {number : Nat}
    (is_file : disk.node? location = some (.file number)) (bytes : List UInt8) (other : Location) :
    (disk.appendTo number bytes).contentAt? other =
      if other = location then (disk.contentAt? location).map (· ++ bytes)
      else disk.contentAt? other := by
  have same_node : (disk.appendTo number bytes).node? other = disk.node? other := rfl
  rw [contentAt?, same_node]
  by_cases same : other = location
  · subst same
    simp only [if_true, contentAt?, is_file]
    rw [appendTo, file?_updateFile, if_pos rfl, Option.map_map, Option.map_map]
    rfl
  · simp only [same, if_false, contentAt?]
    cases at_other : disk.node? other with
    | none => rfl
    | some node =>
        cases node with
        | directory => rfl
        | file found =>
            have differs : found ≠ number := by
              intro equal
              rw [equal] at at_other
              exact same (sound.single other location number at_other is_file)
            simp only
            rw [appendTo, file?_updateFile, if_neg differs]

end append

/-! ## Moving a file -/

section move

variable {disk : Disk} {source destination : Location} {number : Nat}

/-- Moving one entry, as a list of entries sees it. -/
theorem lookup_move (entries : List (Location × Node)) (differ : source ≠ destination)
    (bare : ∀ entry ∈ entries, source <+: entry.1 → entry.1 = source) (other : Location) :
    ((entries.filter fun (found, _) => found ≠ destination).map fun (found, node) =>
        (if source.isPrefixOf found then destination ++ found.drop source.length else found,
          node)).lookup other =
      if other = destination then entries.lookup source
      else if other = source then none
      else entries.lookup other := by
  induction entries with
  | nil => simp
  | cons entry entries ih =>
      rcases entry with ⟨found, node⟩
      have bare_rest : ∀ entry ∈ entries, source <+: entry.1 → entry.1 = source :=
        fun entry entry_mem => bare entry (List.mem_cons_of_mem _ entry_mem)
      by_cases replaced : found = destination
      · rw [List.filter_cons_of_neg (by simpa using replaced), ih bare_rest, replaced,
          lookup_cons_of_ne differ]
        by_cases same : other = destination
        · rw [if_pos same, if_pos same]
        · rw [if_neg same, if_neg same, lookup_cons_of_ne same]
      · rw [List.filter_cons_of_pos (by simpa using replaced), List.map_cons]
        by_cases moved : found = source
        · subst moved
          have prefix_self : found.isPrefixOf found = true := by simp
          simp only [prefix_self, if_true, List.drop_length, List.append_nil]
          by_cases same : other = destination
          · simp [same]
          · rw [lookup_cons_of_ne same, ih bare_rest, if_neg same, if_neg same]
            by_cases left : other = found
            · rw [if_pos left, if_pos left]
            · rw [if_neg left, if_neg left, lookup_cons_of_ne left]
        · have stays : source.isPrefixOf found = false := by
            rw [Bool.eq_false_iff]
            intro below
            exact moved (bare _ List.mem_cons_self (List.isPrefixOf_iff_prefix.mp below))
          simp only [stays, Bool.false_eq_true, if_false]
          by_cases same : other = found
          · subst same
            simp [replaced, moved]
          · rw [lookup_cons_of_ne same, ih bare_rest, lookup_cons_of_ne (Ne.symm moved),
              lookup_cons_of_ne same]

theorem node?_move (sound : disk.Sound) (differ : source ≠ destination)
    (is_file : disk.node? source = some (.file number))
    (replaceable : disk.node? destination ≠ some .directory) (other : Location) :
    (disk.move source destination).node? other =
      if other = destination then some (.file number)
      else if other = source then none
      else disk.node? other := by
  have moved := lookup_move disk.entries differ (fun _ => sound.bare is_file) other
  have source_entry : disk.entries.lookup source = some (.file number) := by
    rw [node?] at is_file
    split at is_file
    · cases is_file
    · exact is_file
  by_cases special : other = [] ∨ other = [Path.root]
  · have directory : disk.node? other = some .directory := if_pos special
    have not_destination : other ≠ destination := by
      rintro rfl
      exact replaceable directory
    have not_source : other ≠ source := by
      rintro rfl
      rw [directory] at is_file
      cases is_file
    rw [if_neg not_destination, if_neg not_source, directory]
    exact if_pos special
  · rw [source_entry] at moved
    simp only [node?, special, if_false]
    exact moved

theorem Sound.move (sound : disk.Sound) {parent : Location} {name : String}
    (differ : source ≠ parent ++ [name]) (is_file : disk.node? source = some (.file number))
    (parent_directory : disk.node? parent = some .directory)
    (replaceable : disk.node? (parent ++ [name]) ≠ some .directory) :
    (disk.move source (parent ++ [name])).Sound := by
  have moved := node?_move sound differ is_file replaceable
  refine ⟨?_, ?_, ?_, sound.numbered⟩
  · intro above below present
    rw [moved] at present ⊢
    have directory : disk.node? above = some .directory := by
      split at present
      · rename_i same
        rw [(List.append_inj' same rfl).1]
        exact parent_directory
      · split at present
        · exact absurd rfl present
        · exact sound.rooted above below present
    have not_destination : above ≠ parent ++ [name] := by
      intro same
      rw [same] at directory
      exact replaceable directory
    have not_source : above ≠ source := by
      intro same
      rw [same, is_file] at directory
      cases directory
    rw [if_neg not_destination, if_neg not_source, directory]
  · intro other found at_other
    rw [moved] at at_other
    split at at_other
    · cases at_other
      exact sound.held source _ is_file
    · split at at_other
      · cases at_other
      · exact sound.held other found at_other
  · intro first second found at_first at_second
    rw [moved] at at_first at_second
    -- The number has left the source, so it is at the destination and nowhere else.
    have left : ∀ other, other ≠ source → disk.node? other ≠ some (.file number) :=
      fun other differs at_other => differs (sound.single other source number at_other is_file)
    split at at_first
    · split at at_second
      · rename_i first_same second_same
        rw [first_same, second_same]
      · cases at_first
        split at at_second
        · cases at_second
        · rename_i not_source
          exact absurd at_second (left second not_source)
    · split at at_first
      · cases at_first
      · rename_i not_source
        split at at_second
        · cases at_second
          exact absurd at_first (left first not_source)
        · split at at_second
          · cases at_second
          · exact sound.single first second found at_first at_second

theorem contentAt?_move (sound : disk.Sound) (differ : source ≠ destination)
    (is_file : disk.node? source = some (.file number))
    (replaceable : disk.node? destination ≠ some .directory) (other : Location) :
    (disk.move source destination).contentAt? other =
      if other = destination then disk.contentAt? source
      else if other = source then none
      else disk.contentAt? other := by
  have same_file : ∀ number, (disk.move source destination).file? number = disk.file? number :=
    fun _ => rfl
  simp only [contentAt?, node?_move sound differ is_file replaceable, same_file]
  by_cases at_destination : other = destination
  · rw [if_pos at_destination, if_pos at_destination, is_file]
  · rw [if_neg at_destination, if_neg at_destination]
    by_cases at_source : other = source
    · rw [if_pos at_source, if_pos at_source]
    · rw [if_neg at_source, if_neg at_source]

end move

end LogRelay.Disk
