import LogRelay.Proofs.Posix.Calls

/-!
# Renaming

A rename that succeeds moves an entry with all that is below it, or changes nothing because its file is
at the new path already (`rename_eq_ok`). So what was at the old location is at the new one afterwards
in either case (`Renamed.arrives`). This holds of every disk, also where two entries name one file.
-/

namespace LogRelay.Disk

open LogRelay.Fallible

variable {disk before after : Disk} {text : String} {location : Location}

/-! ## What is at a path -/

/-- What is at a path, if there is anything. -/
def nodeAt? (disk : Disk) (text : String) : Option Node :=
  (disk.find text).toOption.map Prod.snd

theorem nodeAt?_of_leads (leads : disk.Leads text location) :
    disk.nodeAt? text = disk.node? location := by
  rw [Leads] at leads
  rcases at_location : disk.node? location with _ | _ | number <;>
    simp [nodeAt?, find, leads, at_location, Except.toOption]

theorem follow_congr (same : ∀ other, after.node? other = before.node? other) (location : Location)
    (names : List String) : after.follow location names = before.follow location names := by
  induction names generalizing location with
  | nil => rfl
  | cons name names ih =>
      rw [follow, follow]
      simp only [same, ih]

theorem node?_congr (same : after.entries = before.entries) (location : Location) :
    after.node? location = before.node? location := by
  rw [node?, node?, same]

theorem target_congr (same : after.entries = before.entries) (text : String) :
    after.target text = before.target text := by
  simp only [target, follow_congr (node?_congr same)]

theorem nodeAt?_congr (same : after.entries = before.entries) (text : String) :
    after.nodeAt? text = before.nodeAt? text := by
  simp only [nodeAt?, find, target_congr same, node?_congr same]

/-! ## Where paths lead on different disks -/

/-- Where names lead does not depend on the disk, if they lead anywhere. -/
theorem follow_unique {reached other : Location} {names : List String}
    (follows_before : before.follow location names = .ok reached)
    (follows_after : after.follow location names = .ok other) : reached = other := by
  induction names generalizing location with
  | nil =>
      cases follows_before
      cases follows_after
      rfl
  | cons name names ih =>
      rw [follow] at follows_before follows_after
      split at follows_before
      · cases follows_before
      · rename_i short
        rw [if_neg short] at follows_after
        simp only at follows_before follows_after
        split at follows_before
        · split at follows_after
          · exact ih follows_before follows_after
          · cases follows_after
          · cases follows_after
        · cases follows_before
        · cases follows_before

theorem target_of_name {names : List String} {name : String} {slash : Bool}
    (resolves : Path.ofText text = .ok ⟨names, .name name slash⟩) {found : Target}
    (reaches : disk.target text = .ok found) :
    ∃ parent, disk.follow [] names = .ok parent ∧ Utf8.size name ≤ Path.nameLimit ∧
      found = ⟨parent ++ [name], false, slash⟩ := by
  simp only [target, resolves, ok_bind, bind_eq_ok] at reaches
  rcases reaches with ⟨parent, follows, ends⟩
  refine ⟨parent, follows, ?_⟩
  split at ends
  · simp at ends
  · rename_i fits
    cases ends
    exact ⟨Nat.le_of_not_lt fits, rfl⟩

/-- A path that leads to a location leads there on every disk on which it can be followed, and with
`.old` behind it, it leads to the same location as on that disk. -/
theorem Leads.target_eq (leads : after.Leads text location) {here : Target}
    (reaches : before.target text = .ok here) : here = ⟨location, false, false⟩ := by
  rcases leads_iff.mp leads with ⟨names, name, parent, resolves, follows, -, rfl⟩
  rcases target_of_name resolves reaches with ⟨other, follows_before, -, rfl⟩
  rw [follow_unique follows_before follows]

theorem Leads.old_target_eq (leads : after.Leads text location) {there : Target}
    (reaches : before.target (text ++ ".old") = .ok there) :
    there = ⟨there.location, false, false⟩ ∧ after.Leads (text ++ ".old") there.location := by
  rcases leads_iff.mp leads with ⟨names, name, parent, resolves, follows, -, rfl⟩
  rcases Path.ofText_append_old resolves with too_long | resolves_old
  · simp [target, too_long] at reaches
  · rcases target_of_name resolves_old reaches with ⟨other, follows_before, fits, rfl⟩
    refine ⟨rfl, leads_iff.mpr ⟨names, _, parent, resolves_old, follows, fits, ?_⟩⟩
    rw [follow_unique follows_before follows]

/-- A path that ends in a name does not lead to the root. -/
theorem ne_root_of_target {found : Target} (reaches : disk.target text = .ok found)
    (names_it : found.step = false) : found.location ≠ [Path.root] := by
  rcases bind_eq_ok.mp reaches with ⟨⟨names, last⟩, resolves, ends⟩
  cases last with
  | step name =>
      rcases bind_eq_ok.mp ends with ⟨parent, -, ends⟩
      cases ends
      cases names_it
  | name name slash =>
      rcases target_of_name resolves reaches with ⟨parent, -, -, rfl⟩
      intro is_root
      have same_name : name = Path.root := by
        have last_names := congrArg List.getLast? is_root
        simpa using last_names
      have no_step := (Path.ofText_eq_name resolves).2.2.1
      rw [same_name] at no_step
      cases no_step

/-! ## Moving any entry -/

section move

variable {here there : Location} {node : Node}

theorem lookup_moved {below : Location} (entries : List (Location × Node))
    (outside : ¬here <+: there)
    (free : ∀ entry ∈ entries, entry.1 = there ++ below → below = []) :
    ((entries.filter fun (found, _) => found ≠ there).map fun (found, node) =>
        (if here.isPrefixOf found then there ++ found.drop here.length else found,
          node)).lookup (there ++ below) = entries.lookup (here ++ below) := by
  induction entries with
  | nil => rfl
  | cons entry entries ih =>
      rcases entry with ⟨found, node⟩
      rcases List.forall_mem_cons.mp free with ⟨free_here, free_rest⟩
      by_cases replaced : found = there
      · have differs : here ++ below ≠ found := by
          rintro rfl
          exact outside (replaced ▸ List.prefix_append here below)
        rw [List.filter_cons_of_neg (by simpa using replaced), ih free_rest, lookup_cons_of_ne differs]
      · rw [List.filter_cons_of_pos (by simpa using replaced), List.map_cons]
        by_cases within : here <+: found
        -- The entry is taken along, so it is looked for below the new location.
        · rcases within with ⟨rest, rfl⟩
          simp only [List.isPrefixOf_iff_prefix.mpr (List.prefix_append here rest), if_true,
            List.drop_left]
          by_cases same : below = rest
          · rw [same, List.lookup_cons_self, List.lookup_cons_self]
          · rw [lookup_cons_of_ne (by simpa using same), lookup_cons_of_ne (by simpa using same),
              ih free_rest]
        · have stays : here.isPrefixOf found = false := by
            rw [Bool.eq_false_iff]
            exact fun below => within (List.isPrefixOf_iff_prefix.mp below)
          have not_there : there ++ below ≠ found := by
            rintro rfl
            apply replaced
            rw [free_here rfl, List.append_nil]
          have not_here : here ++ below ≠ found := by
            rintro rfl
            exact within (List.prefix_append here below)
          simp only [stays, Bool.false_eq_true, if_false]
          rw [lookup_cons_of_ne not_there, lookup_cons_of_ne not_here, ih free_rest]

/-- What lies at a location and below it is at the new location after a move, if nothing else was
below that. -/
theorem node?_moved {below : Location} (plain : here ≠ [Path.root] ∧ there ≠ [Path.root])
    (outside : ¬here <+: there) (not_inside : ¬there <+: here)
    (free : ∀ entry ∈ disk.entries, entry.1 = there ++ below → below = []) :
    (disk.move here there).node? (there ++ below) = disk.node? (here ++ below) := by
  have not_special : ∀ location, location ≠ [] → location ≠ [Path.root] →
      ¬(location ++ below = [] ∨ location ++ below = [Path.root]) := by
    rintro (_ | ⟨name, rest⟩) nonempty not_root
    · exact absurd rfl nonempty
    · rintro (empty | is_root)
      · cases empty
      · simp only [List.cons_append, List.cons.injEq, List.append_eq_nil_iff] at is_root
        rcases is_root with ⟨rfl, rfl, -⟩
        exact not_root rfl
  have here_ne_nil : here ≠ [] := by
    rintro rfl
    exact outside List.nil_prefix
  have there_ne_nil : there ≠ [] := by
    rintro rfl
    exact not_inside List.nil_prefix
  rw [node?, node?, if_neg (not_special there there_ne_nil plain.2),
    if_neg (not_special here here_ne_nil plain.1)]
  exact lookup_moved disk.entries outside free

theorem node?_left (plain : here ≠ [Path.root]) (outside : ¬here <+: there)
    (not_inside : ¬there <+: here) : (disk.move here there).node? here = none := by
  have not_special : ¬(here = [] ∨ here = [Path.root]) := by
    rintro (rfl | is_root)
    · exact outside List.nil_prefix
    · exact plain is_root
  rw [node?, if_neg not_special, List.lookup_eq_none_iff]
  intro entry entry_mem
  rcases List.mem_map.mp entry_mem with ⟨⟨found, node⟩, -, rfl⟩
  rw [bne_iff_ne]
  intro comes_back
  simp only at comes_back
  split at comes_back
  · exact not_inside ⟨_, comes_back.symm⟩
  · rename_i elsewhere
    apply elsewhere
    rw [← comes_back]
    simp

/-- What a rename makes of the entry at a location. -/
inductive Renamed (disk : Disk) (here there : Location) (node : Node) : Disk → Prop where
  /-- It is at the new location already. -/
  | kept (same : here = there ∨
      (∃ number, node = .file number) ∧ disk.node? there = some node) :
      Renamed disk here there node disk
  | moved (plain : here ≠ [Path.root] ∧ there ≠ [Path.root]) (outside : ¬here <+: there)
      (not_inside : ¬there <+: here)
      (apart : ∀ number, node = .file number → disk.node? there ≠ some node)
      (gives_way : disk.node? there = some .directory →
        node = .directory ∧ disk.isEmptyDirectory there = true) :
      Renamed disk here there node (disk.move here there)

theorem Renamed.arrives (renamed : Renamed disk here there node after)
    (is_here : disk.node? here = some node) : after.node? there = some node := by
  cases renamed with
  | kept same =>
      rcases same with rfl | ⟨-, is_there⟩
      · exact is_here
      · exact is_there
  | moved plain outside not_inside apart gives_way =>
      have moved := @node?_moved disk here there [] plain outside not_inside fun _ _ _ => rfl
      rw [List.append_nil, List.append_nil] at moved
      rw [moved, is_here]

theorem Renamed.files (renamed : Renamed disk here there node after) : after.files = disk.files := by
  cases renamed <;> rfl

/-- On a sound disk, a rename takes along what is below an entry. -/
theorem Renamed.arrives_below (sound : disk.Sound) (renamed : Renamed disk here there node after)
    (is_here : disk.node? here = some node) (below : Location) :
    after.node? (there ++ below) = disk.node? (here ++ below) := by
  cases renamed with
  | kept same =>
      rcases same with rfl | ⟨⟨number, rfl⟩, is_there⟩
      · rfl
      · rw [sound.single here there number is_here is_there]
  | moved plain outside not_inside apart gives_way =>
      apply node?_moved plain outside not_inside
      rintro ⟨found, held⟩ entry_mem rfl
      by_contra nonempty
      have present := node?_ne_none_of_mem entry_mem
      have empty := (gives_way (sound.directory_above below nonempty present)).2
      simp only [isEmptyDirectory, Bool.not_eq_true', List.any_eq_false] at empty
      apply empty _ entry_mem
      simp [nonempty]

theorem checkReplace_directory (checks : disk.checkReplace location node .directory = .ok ()) :
    node = .directory ∧ disk.isEmptyDirectory location = true := by
  cases node with
  | directory =>
      refine ⟨rfl, ?_⟩
      by_contra nonempty
      simp [checkReplace, nonempty] at checks
  | file number => cases checks

/-- What takes the place of another entry is no file that is there already. -/
theorem Renamed.of_checkReplace {replaced : Node}
    (plain : here ≠ [Path.root] ∧ there ≠ [Path.root]) (outside : ¬here <+: there)
    (not_inside : ¬there <+: here) (is_there : disk.node? there = some replaced)
    (differs : ¬(node ≠ .directory ∧ replaced = node))
    (checks : disk.checkReplace there node replaced = .ok ()) :
    Renamed disk here there node (disk.move here there) := by
  apply Renamed.moved plain outside not_inside
  · rintro number rfl is_same
    rw [is_there, Option.some.injEq] at is_same
    exact differs ⟨by simp, is_same⟩
  · intro directory
    rw [is_there, Option.some.injEq] at directory
    subst directory
    exact checkReplace_directory checks

theorem rename_eq_ok {source destination : String}
    (renames : disk.rename source destination = .ok after) :
    ∃ here there node, disk.target source = .ok here ∧ disk.target destination = .ok there ∧
      disk.node? here.location = some node ∧
      Renamed disk here.location there.location node after := by
  simp only [rename, bind_eq_ok] at renames
  rcases renames with ⟨here, reaches, there, reaches_there, -, -, goes_on⟩
  rcases refuse_eq_ok.mp goes_on with ⟨names_both, goes_on⟩
  rw [Bool.not_eq_true, Bool.or_eq_false_iff] at names_both
  have plain := And.intro (ne_root_of_target reaches names_both.1)
    (ne_root_of_target reaches_there names_both.2)
  split at goes_on
  case h_1 => cases goes_on
  case h_2 node is_here =>
  rcases refuse_eq_ok.mp goes_on with ⟨-, goes_on⟩
  rcases refuse_eq_ok.mp goes_on with ⟨outside, goes_on⟩
  rcases refuse_eq_ok.mp goes_on with ⟨not_inside, goes_on⟩
  refine ⟨here, there, node, reaches, reaches_there, is_here, ?_⟩
  by_cases same : here.location = there.location
  · rw [← same, is_here] at goes_on
    simp only [true_or, if_true] at goes_on
    cases goes_on
    exact .kept (.inl same)
  -- Neither location is above the other, as they differ.
  have never_above : ¬here.location <+: there.location := by
    simpa [same] using outside
  have never_below : ¬there.location <+: here.location := by
    simpa [same] using not_inside
  split at goes_on
  case h_1 free =>
    cases goes_on
    apply Renamed.moved plain never_above never_below <;> simp [free]
  case h_2 replaced is_there =>
    by_cases same_file : node ≠ .directory ∧ replaced = node
    · rw [if_pos (.inr same_file)] at goes_on
      cases goes_on
      rcases same_file with ⟨not_directory, rfl⟩
      cases replaced with
      | directory => exact absurd rfl not_directory
      | file number => exact .kept (.inr ⟨⟨number, rfl⟩, is_there⟩)
    · rw [if_neg (by simp [same, same_file])] at goes_on
      rcases bind_eq_ok.mp goes_on with ⟨done, checks, moves⟩
      cases moves
      exact .of_checkReplace plain never_above never_below is_there same_file checks

end move

theorem Leads.old_differs {there : Location} (leads : disk.Leads text location)
    (leads_old : disk.Leads (text ++ ".old") there) : there ≠ location := by
  rcases leads.old with ⟨old, leads_there, differs⟩ | ⟨fault, fails⟩
  · rwa [leads_old.unique leads_there]
  · rw [Leads, fails] at leads_old
    cases leads_old

/-- What is put out of the way is moved to a location that holds no directory. -/
theorem rename_old_eq_ok {number : Nat} (sound : disk.Sound) (leads : disk.Leads text location)
    (is_file : disk.node? location = some (.file number))
    (renames : disk.rename text (text ++ ".old") = .ok after) :
    ∃ old, disk.Leads (text ++ ".old") old ∧ old ≠ location ∧
      disk.node? old ≠ some .directory ∧ after = disk.move location old := by
  rcases rename_eq_ok renames with
    ⟨here, ⟨old, step, slash⟩, node, reaches, reaches_old, is_here, renamed⟩
  have leads_old := (leads.old_target_eq reaches_old).2
  have differs := leads.old_differs leads_old
  rw [leads.target_eq reaches] at is_here renamed
  have same_node : Node.file number = node := Option.some.inj (is_file.symm.trans is_here)
  subst same_node
  refine ⟨old, leads_old, differs, ?_⟩
  cases renamed with
  | kept same =>
      rcases same with rfl | ⟨-, is_there⟩
      · exact absurd rfl differs
      · exact absurd (sound.single old location number is_there is_file) differs
  | moved plain outside not_inside apart gives_way =>
      refine ⟨?_, rfl⟩
      intro directory
      cases (gives_way directory).1

/-! ## Moving a file out of the way and opening another -/

/-- What opening a file makes of its location: what is there stays, and a new file is made if there is
nothing. -/
structure Opened (before after : Disk) (location : Location) : Prop where
  directories : SameDirectories before after
  elsewhere : ∀ other, other ≠ location → after.node? other = before.node? other
  stays : ∀ node, before.node? location = some node → after.node? location = some node
  fresh : before.node? location = none → after.node? location = some (.file before.next)

theorem openAppend_opened {mode descriptor : Nat}
    (opens : before.openAppend text mode = .ok (after, descriptor)) :
    ∃ location, before.Leads text location ∧ Opened before after location := by
  rcases bind_eq_ok.mp opens with ⟨⟨opened, number⟩, opens_file, goes_on⟩
  rcases bind_eq_ok.mp goes_on with ⟨done, -, ends⟩
  have same : after.entries = opened.entries := by
    cases ends
    rfl
  have same_node := node?_congr same
  rcases openFile_cases opens_file with ⟨location, leads, ⟨is_file, rfl⟩ | ⟨free, creates⟩⟩
  · refine ⟨location, leads, ?_, fun other _ => same_node other, ?_, ?_⟩
    · intro other
      rw [same_node]
    · intro node is_there
      rw [same_node, is_there]
    · intro free
      rw [free] at is_file
      cases is_file
  · have created : (before.create location mode).1 = opened := congrArg Prod.fst creates
    subst created
    have made : ∀ other, after.node? other =
        if other = location then some (.file before.next) else before.node? other := by
      intro other
      rw [same_node, node?_create free]
    refine ⟨location, leads, ?_, ?_, ?_, ?_⟩
    · intro other
      rw [same_node]
      exact sameDirectories_create free mode other
    · intro other differs
      rw [made, if_neg differs]
    · intro node is_there
      rw [free] at is_there
      cases is_there
    · intro _
      rw [made, if_pos rfl]

/-- No entry leads to the file that is made next. -/
def NextFresh (disk : Disk) : Prop :=
  ∀ location, disk.node? location ≠ some (.file disk.next)

theorem Sound.nextFresh (sound : disk.Sound) : disk.NextFresh :=
  fun _ is_next => sound.number_ne_next is_next rfl

/-- What was at a path is at the path with `.old` behind it, and not where it was. -/
def Moved (before after : Disk) (text : String) : Prop :=
  ∃ node, before.nodeAt? text = some node ∧ after.nodeAt? (text ++ ".old") = some node ∧
    after.nodeAt? text ≠ some node

/-- A path and the one with `.old` behind it do not lead to one file. -/
def Apart (disk : Disk) (text : String) : Prop :=
  ∀ number, disk.nodeAt? text = some (.file number) →
    disk.nodeAt? (text ++ ".old") ≠ some (.file number)

theorem not_moved_of_opened {mode descriptor : Nat}
    (opens : before.openAppend text mode = .ok (after, descriptor)) : ¬before.Moved after text := by
  rintro ⟨node, is_there, -, leaves⟩
  rcases openAppend_opened opens with ⟨location, leads, opened⟩
  apply leaves
  rw [nodeAt?_of_leads leads] at is_there
  rw [nodeAt?_of_leads (leads.of_sameDirectories opened.directories)]
  exact opened.stays node is_there

/-- What is put out of the way has been moved when a new file is open in its place, unless both paths
led to one file before. -/
theorem moved_iff_of_rename {between : Disk} {mode descriptor : Nat} (fresh : before.NextFresh)
    (renames : before.rename text (text ++ ".old") = .ok between)
    (opens : between.openAppend text mode = .ok (after, descriptor)) :
    before.Moved after text ↔ before.Apart text := by
  rcases openAppend_opened opens with ⟨location, leads_between, opened⟩
  rcases rename_eq_ok renames with ⟨here, there, node, reaches, reaches_there, is_here, renamed⟩
  -- The path could be followed after the rename, so both paths lead where they led before it.
  have here_eq := leads_between.target_eq reaches
  rcases leads_between.old_target_eq reaches_there with ⟨there_eq, leads_old_between⟩
  have differs := leads_between.old_differs leads_old_between
  generalize there.location = old at *
  subst here_eq there_eq
  have leads : before.Leads text location := reaches
  have leads_old : before.Leads (text ++ ".old") old := reaches_there
  have was_there : before.nodeAt? text = some node := by
    rw [nodeAt?_of_leads leads, is_here]
  cases renamed with
  | kept same =>
      refine iff_of_false (not_moved_of_opened opens) ?_
      intro apart
      rcases same with rfl | ⟨⟨number, rfl⟩, is_there⟩
      · exact differs rfl
      · apply apart number was_there
        rw [nodeAt?_of_leads leads_old, is_there]
  | moved plain outside not_inside apart gives_way =>
      refine iff_of_true ⟨node, was_there, ?_, ?_⟩ ?_
      · have arrives := (Renamed.moved plain outside not_inside apart gives_way).arrives is_here
        rw [nodeAt?_of_leads (leads_old_between.of_sameDirectories opened.directories),
          opened.elsewhere old differs, arrives]
      · have made := opened.fresh (node?_left plain.1 outside not_inside)
        rw [nodeAt?_of_leads (leads_between.of_sameDirectories opened.directories), made]
        rintro ⟨⟩
        exact fresh location is_here
      · intro number is_file
        rw [was_there, Option.some.injEq] at is_file
        rw [nodeAt?_of_leads leads_old, ← is_file]
        exact apart number is_file

end LogRelay.Disk
