/-!
# Delivery statistics

What became of the records is counted twice: since the last snapshot, and since the beginning. A
snapshot reads the first counts and sets them back to zero.

Main statements: a bump adds one to its own counter and leaves the others, in both counts, and a
snapshot moves counts without touching the totals.
-/

namespace LogRelay

/-- What is counted. -/
inductive Counter where
  | received
  | delivered
  | filtered
  | dropped
  | failed
  | rotations
  | connects
  deriving DecidableEq, Repr

namespace Counter

/-- All counters, in the order of a summary. -/
def all : List Counter :=
  [received, delivered, filtered, dropped, failed, rotations, connects]

/-- The name of a counter in a summary. -/
def name : Counter → String
  | received => "received"
  | delivered => "delivered"
  | filtered => "filtered"
  | dropped => "dropped"
  | failed => "failed"
  | rotations => "rotations"
  | connects => "connects"

end Counter

/-- A number for each counter. -/
structure Counts where
  received : Nat
  delivered : Nat
  filtered : Nat
  dropped : Nat
  failed : Nat
  rotations : Nat
  connects : Nat
  deriving DecidableEq, Repr

namespace Counts

/-- Nothing counted. -/
def zero : Counts := ⟨0, 0, 0, 0, 0, 0, 0⟩

/-- The number of a counter. -/
def get (counts : Counts) : Counter → Nat
  | .received => counts.received
  | .delivered => counts.delivered
  | .filtered => counts.filtered
  | .dropped => counts.dropped
  | .failed => counts.failed
  | .rotations => counts.rotations
  | .connects => counts.connects

/-- The counts with one more of a counter. -/
def bump (counts : Counts) : Counter → Counts
  | .received => { counts with received := counts.received + 1 }
  | .delivered => { counts with delivered := counts.delivered + 1 }
  | .filtered => { counts with filtered := counts.filtered + 1 }
  | .dropped => { counts with dropped := counts.dropped + 1 }
  | .failed => { counts with failed := counts.failed + 1 }
  | .rotations => { counts with rotations := counts.rotations + 1 }
  | .connects => { counts with connects := counts.connects + 1 }

@[simp]
theorem get_zero (counter : Counter) : zero.get counter = 0 := by
  cases counter <;> rfl

theorem get_bump (counts : Counts) (bumped counter : Counter) :
    (counts.bump bumped).get counter = counts.get counter + if bumped = counter then 1 else 0 := by
  cases bumped <;> cases counter <;> rfl

/-- The summary: each counter with its number. -/
def line (counts : Counts) : String :=
  " ".intercalate (Counter.all.map fun counter =>
    counter.name ++ "=" ++ toString (counts.get counter))

end Counts

/-- The counts since the last snapshot and since the beginning. -/
structure Stats where
  recent : Counts
  totals : Counts
  deriving DecidableEq, Repr

namespace Stats

/-- Nothing counted yet. -/
def fresh : Stats := ⟨.zero, .zero⟩

/-- Counts one more. -/
def bump (stats : Stats) (counter : Counter) : Stats :=
  ⟨stats.recent.bump counter, stats.totals.bump counter⟩

/-- Counts one more for each of some counters. -/
def bumpAll (stats : Stats) (counters : List Counter) : Stats :=
  counters.foldl bump stats

/-- The counts since the last snapshot, which begin again at zero. -/
def snapshot (stats : Stats) : Counts × Stats :=
  (stats.recent, { stats with recent := .zero })

@[simp]
theorem bumpAll_nil (stats : Stats) : stats.bumpAll [] = stats := rfl

@[simp]
theorem bumpAll_cons (stats : Stats) (counter : Counter) (counters : List Counter) :
    stats.bumpAll (counter :: counters) = (stats.bump counter).bumpAll counters := rfl

theorem bumpAll_append (stats : Stats) (earlier later : List Counter) :
    stats.bumpAll (earlier ++ later) = (stats.bumpAll earlier).bumpAll later :=
  List.foldl_append

theorem get_totals_bump (stats : Stats) (bumped counter : Counter) :
    (stats.bump bumped).totals.get counter =
      stats.totals.get counter + if bumped = counter then 1 else 0 :=
  Counts.get_bump ..

end Stats

end LogRelay
