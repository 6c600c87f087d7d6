import LogRelay.Proofs.Stats.Reports
import LogRelay.Proofs.Stats.Sharing
import Mathlib.Data.List.Induction

/-!
# The balance of the counts

Counting, snapshots, starts and stops of the reporter and the ends of its waits come in any order. What
they make of the counts, of the snapshots and of the journal is a `Tally`. A snapshot, whether a caller
takes it or it is reported, moves what was counted since the last one and loses none of it
(`Balanced.play`), so the balance holds after every run.

A reporter that is not started twice before it is stopped has no series of waits left after the stop
(`waiting_stop`). Without one nothing is reported (`rests_playAll`), and the end of a wait is nothing at
all (`playAll_without_ends`).
-/

namespace LogRelay

/-- How many of a counter there are in some snapshots. -/
def Counts.sumOf (counter : Counter) (snapshots : List Counts) : Nat :=
  snapshots.foldl (fun sum counts => sum + counts.get counter) 0

theorem Counts.sumOf_concat (counter : Counter) (snapshots : List Counts) (counts : Counts) :
    sumOf counter (snapshots ++ [counts]) = sumOf counter snapshots + counts.get counter :=
  List.foldl_concat ..

/-- The counts, their reporter, the snapshots that callers have taken, and what was reported. -/
structure Tally where
  stats : Stats
  reporter : Reporter
  taken : List Counts
  journal : Journal

namespace Tally

variable {Content : Type}

/-- What may come next. -/
inductive Move (Content : Type) where
  | bump (counter : Counter)
  | snapshot
  | showTotals
  | start
  /-- A stop of the reporter returns. -/
  | stop
  /-- A wait of the reporter is over. -/
  | elapse
  /-- The mapping that was given away at a certain turn is changed by its holder. -/
  | alter (turn : Nat) (content : Content)

namespace Move

/-- Whether a counter is counted. -/
def isBump (counter : Counter) : Move Content → Bool
  | bump bumped => bumped = counter
  | _ => false

def isElapse : Move Content → Bool
  | elapse => true
  | _ => false

def isAlter : Move Content → Bool
  | alter .. => true
  | _ => false

end Move

def fresh : Tally :=
  ⟨.fresh, .idle, [], []⟩

/-- What a move makes of the tally. What a holder does to a mapping is nothing to it. -/
def play (tally : Tally) : Move Content → Tally
  | .bump counter => { tally with stats := tally.stats.bump counter }
  | .snapshot =>
      let (counts, stats) := tally.stats.snapshot
      { tally with stats, taken := tally.taken ++ [counts] }
  | .start => { tally with reporter := tally.reporter.start }
  | .stop => { tally with reporter := tally.reporter.stop }
  | .elapse =>
      let (reporter, stats, journal) := tally.reporter.tick tally.stats
      { tally with reporter, stats, journal := tally.journal ++ journal }
  | .showTotals | .alter .. => tally

def playAll (tally : Tally) (moves : List (Move Content)) : Tally :=
  moves.foldl play tally

/-- What a run makes of nothing counted yet and a reporter that was never started. -/
def run (moves : List (Move Content)) : Tally :=
  fresh.playAll moves

variable {tally : Tally} {moves : List (Move Content)}

theorem playAll_cons (tally : Tally) (move : Move Content) (moves : List (Move Content)) :
    tally.playAll (move :: moves) = (tally.play move).playAll moves := rfl

theorem playAll_append (tally : Tally) (earlier later : List (Move Content)) :
    tally.playAll (earlier ++ later) = (tally.playAll earlier).playAll later :=
  List.foldl_append

theorem run_append (earlier later : List (Move Content)) :
    run (earlier ++ later) = (run earlier).playAll later :=
  playAll_append ..

theorem run_concat (earlier : List (Move Content)) (move : Move Content) :
    run (earlier ++ [move]) = (run earlier).play move :=
  run_append ..

theorem run_without_alterations (moves : List (Move Content)) :
    run (moves.filter (!·.isAlter)) = run moves := by
  induction moves using List.reverseRecOn with
  | nil => rfl
  | append_singleton moves move ih =>
      rw [List.filter_append, run_append, ih, run_concat]
      cases move <;> rfl

/-- The end of a wait, if there is one, is a snapshot that is reported. -/
theorem elapse_waiting (waiting : 0 < tally.reporter.waiting) :
    tally.play (.elapse : Move Content) =
      ⟨tally.stats.snapshot.2, { tally.reporter with waits := tally.reporter.waits + 1 }, tally.taken,
        tally.journal ++ [Reporter.entry tally.stats.snapshot.1]⟩ := by
  simp [play, Reporter.tick, waiting]

theorem elapse_idle (idle : tally.reporter.waiting = 0) :
    tally.play (.elapse : Move Content) = tally := by
  simp [play, Reporter.tick, idle]

/-! ## The balance -/

/-- The journal holds reports and nothing else, and what the snapshots of callers and reports hold, and
what has been counted since, is all that was counted. -/
structure Balanced (tally : Tally) : Prop where
  reports : tally.journal.reported.map Reporter.entry = tally.journal
  sums : ∀ counter, Counts.sumOf counter tally.taken + Counts.sumOf counter tally.journal.reported +
    tally.stats.recent.get counter = tally.stats.totals.get counter

theorem balanced_fresh : fresh.Balanced where
  reports := rfl
  sums := fun counter => by cases counter <;> rfl

theorem Balanced.play (balanced : tally.Balanced) (move : Move Content) :
    (tally.play move).Balanced := by
  cases move with
  | bump counted =>
      refine ⟨balanced.reports, fun counter => ?_⟩
      have sums := balanced.sums counter
      simp only [Tally.play, Stats.bump, Counts.get_bump]
      omega
  | snapshot =>
      refine ⟨balanced.reports, fun counter => ?_⟩
      have sums := balanced.sums counter
      simp only [Tally.play, Stats.snapshot, Counts.sumOf_concat, Counts.get_zero]
      omega
  | elapse =>
      rcases Nat.eq_zero_or_pos tally.reporter.waiting with idle | waiting
      · rwa [elapse_idle idle]
      · rw [elapse_waiting waiting]
        constructor
        · rw [Journal.reported_concat, List.map_append, balanced.reports]
          rfl
        · intro counter
          have sums := balanced.sums counter
          simp only [Journal.reported_concat, Stats.snapshot, Counts.sumOf_concat, Counts.get_zero]
          omega
  | start | stop | showTotals | alter => exact ⟨balanced.reports, balanced.sums⟩

theorem balanced_run (moves : List (Move Content)) : (run moves).Balanced := by
  induction moves using List.reverseRecOn with
  | nil => exact balanced_fresh
  | append_singleton moves move ih =>
      rw [run_concat]
      exact ih.play move

theorem totals_play (tally : Tally) (move : Move Content) (counter : Counter) :
    (tally.play move).stats.totals.get counter =
      tally.stats.totals.get counter + (move.isBump counter).toNat := by
  cases move with
  | bump counted =>
      simp only [play, Stats.get_totals_bump, Move.isBump]
      split <;> simp_all
  | elapse =>
      rcases Nat.eq_zero_or_pos tally.reporter.waiting with idle | waiting
      · rw [elapse_idle idle]
        rfl
      · rw [elapse_waiting waiting]
        rfl
  | snapshot | start | stop | showTotals | alter => rfl

theorem totals_run (moves : List (Move Content)) (counter : Counter) :
    (run moves).stats.totals.get counter = moves.countP (·.isBump counter) := by
  induction moves using List.reverseRecOn with
  | nil => cases counter <;> rfl
  | append_singleton moves move ih =>
      rw [run_concat, totals_play, ih, List.countP_append, List.countP_singleton]
      cases move.isBump counter <;> rfl

/-! ## Stops -/

/-- Between two starts the reporter is stopped, and the stop has returned. -/
def StartedOnce (moves : List (Move Content)) : Prop :=
  ∀ before between after, moves = before ++ .start :: between ++ .start :: after → .stop ∈ between

theorem startedOnce_cons (unstarted : .start ∉ moves) : StartedOnce (.start :: moves) := by
  intro before between after moves_eq
  have later : .start ∈ moves := by
    cases before with
    | nil => simp [(List.cons.inj moves_eq).2]
    | cons move before => simp [(List.cons.inj moves_eq).2]
  exact absurd later unstarted

theorem StartedOnce.of_append {earlier later : List (Move Content)}
    (once : StartedOnce (earlier ++ later)) : StartedOnce earlier := by
  rintro before between after rfl
  exact once before between (after ++ later) (by simp)

theorem loose_play {move : Move Content} (unstarted : move ≠ .start) :
    (tally.play move).reporter.loose = tally.reporter.loose := by
  cases move with
  | start => exact absurd rfl unstarted
  | elapse =>
      rcases Nat.eq_zero_or_pos tally.reporter.waiting with idle | waiting
      · rw [elapse_idle idle]
      · rw [elapse_waiting waiting]
  | bump | snapshot | stop | showTotals | alter => rfl

theorem running_play {move : Move Content} (unstarted : move ≠ .start) :
    (tally.play move).reporter.running = true ↔ move ≠ .stop ∧ tally.reporter.running = true := by
  cases move with
  | start => exact absurd rfl unstarted
  | stop => simp [play, Reporter.stop]
  | elapse =>
      rcases Nat.eq_zero_or_pos tally.reporter.waiting with idle | waiting
      · simp [elapse_idle idle]
      · simp [elapse_waiting waiting]
  | bump | snapshot | showTotals | alter => simp [play]

theorem running_playAll (running : tally.reporter.running = true) (unstopped : .stop ∉ moves) :
    (tally.playAll moves).reporter.running = true := by
  induction moves generalizing tally with
  | nil => exact running
  | cons move moves ih =>
      rw [List.mem_cons, not_or] at unstopped
      apply ih _ unstopped.2
      by_cases started : move = .start
      · rw [started]
        rfl
      · exact (running_play started).mpr ⟨Ne.symm unstopped.1, running⟩

/-- The series that was started last goes on just if no stop has followed its start. -/
theorem running_run_iff : (run moves).reporter.running = true ↔
    ∃ before after, moves = before ++ .start :: after ∧ .stop ∉ after := by
  constructor
  · intro running
    induction moves using List.reverseRecOn with
    | nil => cases running
    | append_singleton moves move ih =>
        by_cases started : move = .start
        · exact ⟨moves, [], by rw [started], List.not_mem_nil⟩
        · rw [run_concat, running_play started] at running
          obtain ⟨before, after, rfl, unstopped⟩ := ih running.2
          refine ⟨before, after ++ [move], by simp, ?_⟩
          simp [unstopped, running.1.symm]
  · rintro ⟨before, after, rfl, unstopped⟩
    rw [run_append, playAll_cons]
    exact running_playAll rfl unstopped

/-- Every series of waits can be stopped where the reporter is not started twice. -/
theorem loose_run (once : StartedOnce moves) : (run moves).reporter.loose = 0 := by
  induction moves using List.reverseRecOn with
  | nil => rfl
  | append_singleton moves move ih =>
      have loose := ih once.of_append
      rw [run_concat]
      by_cases started : move = .start
      · subst started
        have stopped : (run moves).reporter.running = false := by
          rw [Bool.eq_false_iff]
          intro running
          obtain ⟨before, after, rfl, unstopped⟩ := running_run_iff.mp running
          exact unstopped (once before after [] (by simp))
        simp [play, Reporter.start, Reporter.waiting, loose, stopped]
      · rw [loose_play started, loose]

theorem waiting_eq_zero_iff {reporter : Reporter} :
    reporter.waiting = 0 ↔ reporter.loose = 0 ∧ reporter.running = false := by
  cases running : reporter.running <;> simp [Reporter.waiting, running]

theorem waiting_of_running {reporter : Reporter} (running : reporter.running = true) :
    0 < reporter.waiting := by
  simp [Reporter.waiting, running]

theorem waiting_stop (once : StartedOnce moves) :
    ((run moves).play (.stop : Move Content)).reporter.waiting = 0 :=
  waiting_eq_zero_iff.mpr ⟨loose_run once, rfl⟩

/-- A reporter that is started twice keeps a series that no stop reaches. -/
example : (run ([.start, .start, .stop, .stop] : List (Move Unit))).reporter.waiting = 1 := rfl

/-- Without a series of waits nothing is reported and only a caller begins the counts again. -/
structure Rests (before after : Tally) (moves : List (Move Content)) : Prop where
  idle : after.reporter.waiting = 0
  journal : after.journal = before.journal
  recent : .snapshot ∉ moves → ∀ counter, after.stats.recent.get counter =
    before.stats.recent.get counter + moves.countP (·.isBump counter)

theorem rests_play (idle : tally.reporter.waiting = 0) {move : Move Content}
    (unstarted : move ≠ .start) : Rests tally (tally.play move) [move] := by
  have loose := waiting_eq_zero_iff.mp idle
  cases move with
  | start => exact absurd rfl unstarted
  | bump counted =>
      refine ⟨idle, rfl, fun _ counter => ?_⟩
      simp only [play, Stats.bump, Counts.get_bump, List.countP_singleton, Move.isBump]
      simp
  | snapshot => exact ⟨idle, rfl, fun uncalled => absurd List.mem_cons_self uncalled⟩
  | stop => exact ⟨waiting_eq_zero_iff.mpr ⟨loose.1, rfl⟩, rfl, fun _ _ => rfl⟩
  | elapse => rw [elapse_idle idle]; exact ⟨idle, rfl, fun _ _ => rfl⟩
  | showTotals | alter => exact ⟨idle, rfl, fun _ _ => rfl⟩

theorem rests_playAll (idle : tally.reporter.waiting = 0) (unstarted : .start ∉ moves) :
    Rests tally (tally.playAll moves) moves := by
  induction moves generalizing tally with
  | nil => exact ⟨idle, rfl, fun _ _ => rfl⟩
  | cons move moves ih =>
      rw [List.mem_cons, not_or] at unstarted
      have first := rests_play idle (Ne.symm unstarted.1)
      have rest := ih first.idle unstarted.2
      refine ⟨rest.idle, rest.journal.trans first.journal, fun uncalled counter => ?_⟩
      rw [List.mem_cons, not_or] at uncalled
      rw [playAll_cons, rest.recent uncalled.2, first.recent (by simpa using uncalled.1)]
      simp only [List.countP_cons, List.countP_nil]
      omega

/-- Without a series of waits the end of a wait is nothing at all. -/
theorem playAll_without_ends (idle : tally.reporter.waiting = 0) (unstarted : .start ∉ moves) :
    tally.playAll (moves.filter (!·.isElapse)) = tally.playAll moves := by
  induction moves generalizing tally with
  | nil => rfl
  | cons move moves ih =>
      rw [List.mem_cons, not_or] at unstarted
      have rest := ih (rests_play idle (Ne.symm unstarted.1)).idle unstarted.2
      cases move with
      | elapse =>
          rw [elapse_idle idle] at rest
          rw [List.filter_cons_of_neg (by simp [Move.isElapse]), rest, playAll_cons, elapse_idle idle]
      | bump | snapshot | start | stop | showTotals | alter =>
          rw [List.filter_cons_of_pos rfl, playAll_cons, rest, playAll_cons]

end Tally

end LogRelay
