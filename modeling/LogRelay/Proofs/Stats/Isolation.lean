import LogRelay.Proofs.Stats.Balance

/-!
# The tally with mappings that are given away

The counts of a `SharedTally` are in the mappings of a ledger, from which callers are given mappings of
their own. A move on it would fail where a mapping of the ledger does not hold counts any more. None does,
and the tally that callers see is the one without sharing, whatever the holders do (`Shows.play`). So a run
comes to what the balance and the stops of a tally are (`AccountsFor`, `run_exact`).
-/

namespace LogRelay

/-- The ledger of the counts, the mappings that callers were given, and the rest of a tally. -/
structure SharedTally (Content : Type) where
  ledger : Ledger Content
  given : List (Holding Content)
  reporter : Reporter
  taken : List Counts
  journal : Journal

namespace SharedTally

variable {Content : Type}

open Tally (Move)

def fresh : SharedTally Content :=
  ⟨.fresh, [], .idle, [], []⟩

/-- What a move makes of the tally. The mapping of a report is given to nobody. -/
def play (shared : SharedTally Content) : Move Content → Option (SharedTally Content)
  | .bump counter => do
      let ledger ← shared.ledger.bump counter
      some { shared with ledger }
  | .snapshot => do
      let (place, ledger) ← shared.ledger.snapshot
      let counts ← ledger.mappings.counts? place
      some { shared with
        ledger, given := shared.given ++ [⟨place, .counts counts⟩], taken := shared.taken ++ [counts] }
  | .showTotals => do
      let (place, ledger) ← shared.ledger.showTotals
      let counts ← ledger.mappings.counts? place
      some { shared with ledger, given := shared.given ++ [⟨place, .counts counts⟩] }
  | .start => some { shared with reporter := shared.reporter.start }
  | .stop => some { shared with reporter := shared.reporter.stop }
  | .elapse =>
      if 0 < shared.reporter.waiting then do
        let (place, ledger) ← shared.ledger.snapshot
        let counts ← ledger.mappings.counts? place
        some { shared with
          ledger, reporter := { shared.reporter with waits := shared.reporter.waits + 1 }
          journal := shared.journal ++ [Reporter.entry counts] }
      else some shared
  | .alter turn content =>
      match shared.given[turn]? with
      | some holding => some { shared with
          ledger := shared.ledger.alter holding.place content
          given := shared.given.set turn ⟨holding.place, .altered content⟩ }
      | none => some shared

/-- What a run makes of nothing counted yet and a reporter that was never started. -/
def run (moves : List (Move Content)) : Option (SharedTally Content) :=
  moves.foldlM play fresh

/-- The tally with the counts that callers would be given. -/
def tally? (shared : SharedTally Content) : Option Tally := do
  let stats ← shared.ledger.stats?
  some ⟨stats, shared.reporter, shared.taken, shared.journal⟩

/-- The ledger keeps the counts of the tally, and the rest is the same. -/
structure Shows (shared : SharedTally Content) (tally : Tally) : Prop where
  keeps : shared.ledger.Keeps shared.given tally.stats
  reporter : shared.reporter = tally.reporter
  taken : shared.taken = tally.taken
  journal : shared.journal = tally.journal

variable {shared : SharedTally Content} {tally : Tally}

theorem Shows.tally? (shows : shared.Shows tally) : shared.tally? = some tally := by
  rw [SharedTally.tally?, shows.keeps.stats?, shows.reporter, shows.taken, shows.journal]
  rfl

theorem shows_fresh : (fresh : SharedTally Content).Shows .fresh :=
  ⟨Ledger.keeps_fresh, rfl, rfl, rfl⟩

/-- A move succeeds and shows what it makes of the tally. -/
theorem Shows.play (shows : shared.Shows tally) (move : Move Content) :
    ∃ after, shared.play move = some after ∧ after.Shows (tally.play move) := by
  obtain ⟨ledger, given, reporter, taken, journal⟩ := shared
  obtain ⟨keeps, rfl, rfl, rfl⟩ := shows
  cases move with
  | bump counter =>
      obtain ⟨after, bump_eq, after_keeps⟩ := keeps.bump counter
      refine ⟨⟨after, given, _, _, _⟩, ?_, after_keeps, rfl, rfl, rfl⟩
      simp [SharedTally.play, bump_eq, Tally.play]
  | snapshot =>
      obtain ⟨place, after, snapshot_eq, after_keeps⟩ := keeps.snapshot
      refine ⟨⟨after, given ++ [⟨place, _⟩], _, _, _⟩, ?_, after_keeps, rfl, rfl, rfl⟩
      simp [SharedTally.play, snapshot_eq, after_keeps.last, Tally.play]
  | showTotals =>
      obtain ⟨place, after, show_eq, after_keeps⟩ := keeps.showTotals
      refine ⟨⟨after, given ++ [⟨place, _⟩], _, _, _⟩, ?_, after_keeps, rfl, rfl, rfl⟩
      simp [SharedTally.play, show_eq, after_keeps.last, Tally.play]
  | start => exact ⟨_, rfl, keeps, rfl, rfl, rfl⟩
  | stop => exact ⟨_, rfl, keeps, rfl, rfl, rfl⟩
  | elapse =>
      rcases Nat.eq_zero_or_pos tally.reporter.waiting with idle | waiting
      · rw [Tally.elapse_idle idle]
        refine ⟨⟨ledger, given, _, _, _⟩, ?_, keeps, rfl, rfl, rfl⟩
        simp [SharedTally.play, idle]
      · rw [Tally.elapse_waiting waiting]
        obtain ⟨place, after, snapshot_eq, after_keeps⟩ := keeps.snapshot
        refine ⟨⟨after, given, _, _, _⟩, ?_, after_keeps.forget, rfl, rfl, rfl⟩
        simp [SharedTally.play, waiting, snapshot_eq, after_keeps.last]
  | alter turn content =>
      cases held : given[turn]? with
      | none =>
          refine ⟨⟨ledger, given, _, _, _⟩, ?_, keeps, rfl, rfl, rfl⟩
          simp [SharedTally.play, held]
      | some holding =>
          refine ⟨⟨_, given.set turn _, _, _, _⟩, ?_, keeps.alter held content, rfl, rfl, rfl⟩
          simp only [SharedTally.play, held]
          rfl

theorem shows_run (moves : List (Move Content)) :
    ∃ shared, run moves = some shared ∧ shared.Shows (Tally.run moves) := by
  induction moves using List.reverseRecOn with
  | nil => exact ⟨fresh, rfl, shows_fresh⟩
  | append_singleton moves move ih =>
      obtain ⟨before, run_eq, shows⟩ := ih
      obtain ⟨after, play_eq, after_shows⟩ := shows.play move
      refine ⟨after, ?_, Tally.run_concat moves move ▸ after_shows⟩
      rw [run] at run_eq ⊢
      simp [List.foldlM_append, run_eq, play_eq]

/-- What a run comes to, in the counts and in the journal. -/
structure AccountsFor (shared : SharedTally Content) (moves : List (Move Content)) : Prop where
  /-- Callers are given the counts of the tally. -/
  tally : shared.tally? = some (Tally.run moves)
  /-- What holders do to their mappings changes nothing of it. -/
  unaltered : (run (moves.filter (!·.isAlter))).bind tally? = shared.tally?
  /-- A mapping that was given away stands as its holder left it. -/
  intact : ∀ holding ∈ shared.given, shared.ledger.mappings[holding.place]? = some holding.mapping
  /-- The journal holds reports and nothing else. -/
  reports : shared.journal.reported.map Reporter.entry = shared.journal
  /-- All snapshots, those of callers and those that were reported, and what would be in the next are the
  totals. -/
  balance : ∀ counter, Counts.sumOf counter shared.taken + Counts.sumOf counter shared.journal.reported +
    (Tally.run moves).stats.recent.get counter = (Tally.run moves).stats.totals.get counter
  /-- The totals are how often each counter was bumped. -/
  totals : ∀ counter, (Tally.run moves).stats.totals.get counter = moves.countP (·.isBump counter)
  /-- A snapshot has all that would be in the next, and leaves nothing. -/
  taken : ∀ earlier, moves = earlier ++ [.snapshot] →
    shared.taken = (Tally.run earlier).taken ++ [(Tally.run earlier).stats.recent] ∧
      (Tally.run moves).stats.recent = .zero
  /-- So has the report at the end of a wait that was started and not stopped. -/
  reported : ∀ before after, moves = (before ++ .start :: after) ++ [.elapse] → .stop ∉ after →
    shared.journal = (Tally.run (before ++ .start :: after)).journal ++
        [Reporter.entry (Tally.run (before ++ .start :: after)).stats.recent] ∧
      (Tally.run moves).stats.recent = .zero
  /-- From a stop of a reporter that was started once until the next start nothing is reported, nothing is
  counted anew unless a caller takes a snapshot, and the ends of waits are as if they had not been. -/
  stopped : ∀ earlier later, moves = earlier ++ .stop :: later → Tally.StartedOnce earlier →
    .start ∉ later → Tally.Rests (Tally.run earlier) (Tally.run moves) later ∧
      Tally.run (earlier ++ .stop :: later.filter (!·.isElapse)) = Tally.run moves

/-- Every run succeeds and loses and counts twice none of what was counted, whatever the order of its moves
and whatever holders do to the mappings that they are given. -/
theorem run_exact (moves : List (Move Content)) :
    ∃ shared, run moves = some shared ∧ shared.AccountsFor moves := by
  obtain ⟨shared, run_eq, shows⟩ := shows_run moves
  obtain ⟨unaltered, unaltered_eq, unaltered_shows⟩ := shows_run (moves.filter (!·.isAlter))
  have balanced := Tally.balanced_run moves
  refine ⟨shared, run_eq, shows.tally?, ?unaltered, shows.keeps.intact, ?reports, ?balance,
    Tally.totals_run moves, ?taken, ?reported, ?stopped⟩
  case unaltered =>
    rw [unaltered_eq, Option.bind_some, unaltered_shows.tally?, shows.tally?,
      Tally.run_without_alterations]
  case reports =>
    rw [shows.journal]
    exact balanced.reports
  case balance =>
    rw [shows.journal, shows.taken]
    exact balanced.sums
  case taken =>
    rintro earlier rfl
    rw [shows.taken, Tally.run_concat]
    exact ⟨rfl, rfl⟩
  case reported =>
    rintro before after rfl unstopped
    have waiting := Tally.waiting_of_running (Tally.running_run_iff.mpr ⟨before, after, rfl, unstopped⟩)
    rw [shows.journal, Tally.run_concat, Tally.elapse_waiting waiting]
    exact ⟨rfl, rfl⟩
  case stopped =>
    rintro earlier later rfl once unstarted
    have idle := Tally.waiting_stop once
    rw [Tally.run_append, Tally.run_append, Tally.playAll_cons, Tally.playAll_cons]
    have rests := Tally.rests_playAll idle unstarted
    exact ⟨⟨rests.idle, rests.journal, rests.recent⟩, Tally.playAll_without_ends idle unstarted⟩

theorem run_exact_stopped :
    ∃ shared, run ([.start, .bump .received, .elapse, .snapshot, .alter 0 (), .bump .failed, .stop,
        .bump .failed, .elapse] : List (Move Unit)) = some shared ∧
      shared.tally? = some ⟨⟨⟨0, 0, 0, 0, 2, 0, 0⟩, ⟨1, 0, 0, 0, 2, 0, 0⟩⟩, ⟨0, false, 2⟩, [.zero],
        [Reporter.entry ⟨1, 0, 0, 0, 0, 0, 0⟩]⟩ ∧
      Tally.Rests (Tally.run ([.start, .bump .received, .elapse, .snapshot, .alter 0 (),
        .bump .failed] : List (Move Unit)))
        ⟨⟨⟨0, 0, 0, 0, 2, 0, 0⟩, ⟨1, 0, 0, 0, 2, 0, 0⟩⟩, ⟨0, false, 2⟩, [.zero],
          [Reporter.entry ⟨1, 0, 0, 0, 0, 0, 0⟩]⟩ ([.bump .failed, .elapse] : List (Move Unit)) := by
  obtain ⟨shared, run_eq, accounts⟩ := run_exact [.start, .bump .received, .elapse, .snapshot,
    .alter 0 (), .bump .failed, .stop, .bump .failed, .elapse]
  have once : Tally.StartedOnce [.start, .bump .received, .elapse, .snapshot, .alter 0 (), .bump .failed] :=
    Tally.startedOnce_cons (by simp)
  obtain ⟨rests, -⟩ := accounts.stopped _ [.bump .failed, .elapse] rfl once (by simp)
  exact ⟨shared, run_eq, accounts.tally, rests⟩

end SharedTally

end LogRelay
