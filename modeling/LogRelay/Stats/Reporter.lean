import LogRelay.Journal
import LogRelay.Stats

/-!
# The periodic report

While it runs, the reporter waits for one interval after another and writes a snapshot of the counts
into the journal at the end of each. Stopping ends the series of waits that was started last. A series
that was started before it, and not stopped, goes on without end.
-/

namespace LogRelay

/-- The reporter: how many series of waits no stop can reach, whether the last one that was started
goes on, and how many waits have begun. -/
structure Reporter where
  loose : Nat
  running : Bool
  waits : Nat
  deriving DecidableEq, Repr

namespace Reporter

/-- A reporter that has not been started. -/
def idle : Reporter := ⟨0, false, 0⟩

/-- How many waits are going on. -/
def waiting (reporter : Reporter) : Nat :=
  reporter.loose + if reporter.running then 1 else 0

/-- Starts a series of waits, which begins its first wait. -/
def start (reporter : Reporter) : Reporter :=
  ⟨reporter.waiting, true, reporter.waits + 1⟩

/-- Stops the series that was started last in the middle of its wait. Stopping cancels the wait and then
waits for the series to end. A series that is cancelled reports no more, and nothing that happens until
it has ended touches it, so the whole is one step, at the place where stopping returns. A series that is
started before that takes the place of the one that ends: it goes on, and no stop can reach it. -/
def stop (reporter : Reporter) : Reporter :=
  { reporter with running := false }

/-- The report of some counts. -/
def entry (counts : Counts) : Entry :=
  ⟨.info, .stats, "[stats] " ++ counts.line⟩

/-- A wait is over, if one is going on: the reporter reports and waits again. -/
def tick (reporter : Reporter) (stats : Stats) : Reporter × Stats × Journal :=
  if 0 < reporter.waiting then
    let (counts, stats) := stats.snapshot
    ({ reporter with waits := reporter.waits + 1 }, stats, [entry counts])
  else (reporter, stats, [])

end Reporter

end LogRelay
