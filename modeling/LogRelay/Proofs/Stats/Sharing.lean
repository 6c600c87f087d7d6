import LogRelay.Stats
import Mathlib.Data.List.Nodup

/-!
# Mappings that are given away

Counts are kept in two mappings of names to numbers, and whoever asks for a snapshot or for the totals is
given a mapping, which is theirs to change. Here all mappings stand at places, so that one that is given
away might be one that is counted in, or both counts might be one mapping. The counts are a value in
`Stats`. That a ledger keeps them (`Ledger.Keeps`) means that its own two mappings hold them, that these
stand apart from each other and from all that was given away, and that what was given away stands as its
holders left it. Every operation of the ledger does to the kept counts what it does in `Stats`
(`Keeps.bump`, `Keeps.snapshot`, `Keeps.showTotals`), and nothing that a holder does is seen in them
(`Keeps.alter`).
-/

namespace LogRelay

variable {Content : Type}

/-- A mapping: counts, or whatever a holder made of it. -/
inductive Mapping (Content : Type) where
  | counts (counts : Counts)
  | altered (content : Content)

/-- All mappings there are, by their places. -/
abbrev Mappings (Content : Type) := List (Mapping Content)

/-- A mapping that somebody holds, and its place. -/
structure Holding (Content : Type) where
  place : Nat
  mapping : Mapping Content

namespace Mappings

/-- The counts at a place. There are none where a holder has changed the mapping. -/
def counts? (mappings : Mappings Content) (place : Nat) : Option Counts :=
  match mappings[place]? with
  | some (.counts counts) => some counts
  | some (.altered _) | none => none

/-- Changes the mapping at a place. -/
def put (mappings : Mappings Content) (place : Nat) (mapping : Mapping Content) : Mappings Content :=
  mappings.set place mapping

/-- Makes a mapping at a new place. -/
def create (mappings : Mappings Content) (counts : Counts) : Nat × Mappings Content :=
  (mappings.length, mappings ++ [.counts counts])

/-- A copy of the mapping at a place. -/
def copy (mappings : Mappings Content) (place : Nat) : Option (Nat × Mappings Content) := do
  let counts ← mappings.counts? place
  some (mappings.create counts)

/-- Counts one more in the mapping at a place. -/
def bump (mappings : Mappings Content) (place : Nat) (counter : Counter) :
    Option (Mappings Content) := do
  let counts ← mappings.counts? place
  some (mappings.put place (.counts (counts.bump counter)))

/-! ## Holders -/

/-- The mappings stand where their holders have them, each at a place of its own. -/
structure Hold (mappings : Mappings Content) (holdings : List (Holding Content)) : Prop where
  apart : (holdings.map Holding.place).Nodup
  stands : ∀ holding ∈ holdings, mappings[holding.place]? = some holding.mapping

variable {mappings : Mappings Content} {holdings : List (Holding Content)} {place : Nat}
  {counts : Counts} {old : Mapping Content}

theorem Hold.counts? (hold : mappings.Hold holdings) (held : ⟨place, .counts counts⟩ ∈ holdings) :
    mappings.counts? place = some counts := by
  rw [Mappings.counts?, hold.stands _ held]

theorem Hold.inside (hold : mappings.Hold holdings) {holding : Holding Content}
    (held : holding ∈ holdings) : holding.place < mappings.length :=
  (List.getElem?_eq_some_iff.mp (hold.stands holding held)).1

theorem Hold.perm {others : List (Holding Content)} (hold : mappings.Hold holdings)
    (reordered : holdings.Perm others) : mappings.Hold others where
  apart := (reordered.map Holding.place).nodup_iff.mp hold.apart
  stands := fun holding held => hold.stands holding (reordered.mem_iff.mpr held)

theorem Hold.sublist {others : List (Holding Content)} (hold : mappings.Hold holdings)
    (fewer : others.Sublist holdings) : mappings.Hold others where
  apart := (fewer.map Holding.place).nodup hold.apart
  stands := fun holding held => hold.stands holding (fewer.subset held)

/-- A mapping that is changed changes for its holder only. -/
theorem Hold.put_head (hold : mappings.Hold (⟨place, old⟩ :: holdings)) (new : Mapping Content) :
    (mappings.put place new).Hold (⟨place, new⟩ :: holdings) where
  apart := hold.apart
  stands := by
    obtain ⟨distinct, -⟩ := List.nodup_cons.mp hold.apart
    intro holding held
    rcases List.mem_cons.mp held with rfl | other_held
    · exact List.getElem?_set_self (hold.inside List.mem_cons_self)
    · rw [← (hold.sublist (List.sublist_cons_self ..)).stands holding other_held]
      apply List.getElem?_set_ne
      intro same
      exact distinct (List.mem_map.mpr ⟨holding, other_held, same.symm⟩)

theorem Hold.put (before : List (Holding Content)) {after : List (Holding Content)}
    (hold : mappings.Hold (before ++ ⟨place, old⟩ :: after)) (new : Mapping Content) :
    (mappings.put place new).Hold (before ++ ⟨place, new⟩ :: after) :=
  ((hold.perm List.perm_middle).put_head new).perm List.perm_middle.symm

/-- A mapping that is made stands apart from all that were there. -/
theorem Hold.create (hold : mappings.Hold holdings) (counts : Counts) :
    (mappings.create counts).2.Hold (⟨(mappings.create counts).1, .counts counts⟩ :: holdings) where
  apart := by
    rw [List.map_cons, List.nodup_cons]
    refine ⟨?_, hold.apart⟩
    intro there
    obtain ⟨holding, held, place_eq⟩ := List.mem_map.mp there
    have inside := hold.inside held
    rw [place_eq] at inside
    exact Nat.lt_irrefl _ inside
  stands := by
    intro holding held
    rcases List.mem_cons.mp held with rfl | old_held
    · exact List.getElem?_concat_length ..
    · rw [← hold.stands holding old_held]
      exact List.getElem?_append_left (hold.inside old_held)

end Mappings

/-- The mappings, and the places of the two that are counted in. -/
structure Ledger (Content : Type) where
  mappings : Mappings Content
  recent : Nat
  totals : Nat

namespace Ledger

/-- Two mappings in which nothing is counted. -/
def fresh : Ledger Content :=
  ⟨[.counts .zero, .counts .zero], 0, 1⟩

/-- Counts one more, in one mapping after the other. -/
def bump (ledger : Ledger Content) (counter : Counter) : Option (Ledger Content) := do
  let mappings ← ledger.mappings.bump ledger.recent counter
  let mappings ← mappings.bump ledger.totals counter
  some { ledger with mappings }

/-- A copy of the counts since the last snapshot, which are counted in a new mapping from then on. -/
def snapshot (ledger : Ledger Content) : Option (Nat × Ledger Content) := do
  let (given, mappings) ← ledger.mappings.copy ledger.recent
  let (recent, mappings) := mappings.create .zero
  some (given, { ledger with mappings, recent })

/-- A copy of the counts since the beginning. -/
def showTotals (ledger : Ledger Content) : Option (Nat × Ledger Content) := do
  let (given, mappings) ← ledger.mappings.copy ledger.totals
  some (given, { ledger with mappings })

/-- The counts that a caller would be given who asks for a snapshot, and who asks for the totals. -/
def stats? (ledger : Ledger Content) : Option Stats := do
  let (snapshot, after) ← ledger.snapshot
  let recent ← after.mappings.counts? snapshot
  let (copy, after) ← ledger.showTotals
  let totals ← after.mappings.counts? copy
  some ⟨recent, totals⟩

/-- What a holder does to a mapping. -/
def alter (ledger : Ledger Content) (place : Nat) (content : Content) : Ledger Content :=
  { ledger with mappings := ledger.mappings.put place (.altered content) }

/-- The two mappings that are counted in, as they have to be for these counts. -/
def own (ledger : Ledger Content) (stats : Stats) : List (Holding Content) :=
  [⟨ledger.recent, .counts stats.recent⟩, ⟨ledger.totals, .counts stats.totals⟩]

/-- The ledger keeps these counts in two mappings of its own, and what was given away stands as its
holders left it. -/
def Keeps (ledger : Ledger Content) (given : List (Holding Content)) (stats : Stats) : Prop :=
  ledger.mappings.Hold (ledger.own stats ++ given)

variable {ledger : Ledger Content} {given : List (Holding Content)} {stats : Stats}

theorem keeps_fresh : (fresh : Ledger Content).Keeps [] .fresh where
  apart := by simp [own, fresh]
  stands := by simp [own, fresh, Stats.fresh]

theorem Keeps.recent (keeps : ledger.Keeps given stats) :
    ledger.mappings.counts? ledger.recent = some stats.recent :=
  Mappings.Hold.counts? keeps (by simp [own])

theorem Keeps.totals (keeps : ledger.Keeps given stats) :
    ledger.mappings.counts? ledger.totals = some stats.totals :=
  Mappings.Hold.counts? keeps (by simp [own])

/-- The counts in a mapping that was just given away. -/
theorem Keeps.last {place : Nat} {counts : Counts}
    (keeps : ledger.Keeps (given ++ [⟨place, .counts counts⟩]) stats) :
    ledger.mappings.counts? place = some counts :=
  Mappings.Hold.counts? keeps (by simp)

/-- A mapping that was given away may be forgotten. -/
theorem Keeps.forget {holding : Holding Content} (keeps : ledger.Keeps (given ++ [holding]) stats) :
    ledger.Keeps given stats :=
  Mappings.Hold.sublist keeps ((List.sublist_append_left ..).append_left _)

theorem Keeps.intact (keeps : ledger.Keeps given stats) :
    ∀ holding ∈ given, ledger.mappings[holding.place]? = some holding.mapping :=
  fun holding held => keeps.stands holding (List.mem_append_right _ held)

theorem Keeps.bump (keeps : ledger.Keeps given stats) (counter : Counter) :
    ∃ after, ledger.bump counter = some after ∧ after.Keeps given (stats.bump counter) := by
  have once := Mappings.Hold.put_head keeps (.counts (stats.recent.bump counter))
  have totals := once.counts? (List.mem_cons_of_mem _ List.mem_cons_self)
  have twice := once.put [_] (.counts (stats.totals.bump counter))
  refine ⟨{ ledger with mappings := _ }, ?_, twice⟩
  simp only [Ledger.bump, Mappings.bump, keeps.recent, totals, Option.bind_eq_bind, Option.bind_some]
  rfl

/-- A snapshot gives away a new mapping with the recent counts, which are zero from then on. -/
theorem Keeps.snapshot (keeps : ledger.Keeps given stats) :
    ∃ place after, ledger.snapshot = some (place, after) ∧
      after.Keeps (given ++ [⟨place, .counts stats.snapshot.1⟩]) stats.snapshot.2 := by
  -- the mapping that was counted in is held by nobody any more
  have totals := Mappings.Hold.sublist keeps (List.sublist_cons_self ..)
  have copied := (totals.create stats.recent).perm (List.perm_append_singleton _ _).symm
  refine ⟨_, _, by rw [Ledger.snapshot, Mappings.copy, keeps.recent]; rfl, ?_⟩
  exact copied.create .zero

theorem Keeps.showTotals (keeps : ledger.Keeps given stats) :
    ∃ place after, ledger.showTotals = some (place, after) ∧
      after.Keeps (given ++ [⟨place, .counts stats.totals⟩]) stats := by
  have copied := Mappings.Hold.create keeps stats.totals
  refine ⟨_, _, by rw [Ledger.showTotals, Mappings.copy, keeps.totals]; rfl, ?_⟩
  rw [Keeps, ← List.append_assoc]
  exact copied.perm (List.perm_append_singleton _ _).symm

theorem Keeps.stats? (keeps : ledger.Keeps given stats) : ledger.stats? = some stats := by
  obtain ⟨snapshot, taken, snapshot_eq, after_taken⟩ := keeps.snapshot
  obtain ⟨copy, shown, showTotals_eq, after_shown⟩ := keeps.showTotals
  simp only [Ledger.stats?, snapshot_eq, after_taken.last, showTotals_eq, after_shown.last,
    Option.bind_eq_bind, Option.bind_some]
  rfl

/-- What a holder does to a mapping is seen by nobody else. -/
theorem Keeps.alter {turn : Nat} {holding : Holding Content} (keeps : ledger.Keeps given stats)
    (held : given[turn]? = some holding) (content : Content) :
    (ledger.alter holding.place content).Keeps
      (given.set turn ⟨holding.place, .altered content⟩) stats := by
  obtain ⟨inside, rfl⟩ := List.getElem?_eq_some_iff.mp held
  obtain ⟨before, after, given_eq, -, set_eq⟩ := List.exists_of_set inside
  rw [set_eq]
  apply Mappings.Hold.put (ledger.own stats ++ before)
  rw [List.append_assoc, ← given_eq]
  exact keeps

end Ledger

end LogRelay
