import LogRelay.Proofs.Text.Decimal
import LogRelay.Stats.Reporter

/-!
# Reports read back

A report names every counter with its number. Behind the mark of a report every member follows upon a
blank, so a reader takes one member after the other, and what it finds are the counts that were reported
(`reported?_entry`).
-/

namespace LogRelay

namespace Counts

/-- Counts with the numbers of all counters, in the order of a summary. -/
def ofNumbers? : List Nat → Option Counts
  | [received, delivered, filtered, dropped, failed, rotations, connects] =>
      some ⟨received, delivered, filtered, dropped, failed, rotations, connects⟩
  | _ => none

/-- A counter with its number, as a summary has it. -/
def member (counts : Counts) (counter : Counter) : String :=
  counter.name ++ "=" ++ toString (counts.get counter)

theorem ofNumbers?_get (counts : Counts) : ofNumbers? (Counter.all.map counts.get) = some counts := rfl

/-- Texts with blanks between them are, behind one more blank, texts with a blank before each. -/
theorem blank_intercalate {texts : List (List Char)} (nonempty : texts ≠ []) :
    ' ' :: [' '].intercalate texts = texts.flatMap (' ' :: ·) := by
  induction texts with
  | nil => exact absurd rfl nonempty
  | cons text texts ih =>
      cases texts with
      | nil => simp
      | cons next texts =>
          rw [List.intercalate_cons_cons, List.flatMap_cons, ← ih (List.cons_ne_nil next texts)]
          simp

theorem toList_line (counts : Counts) :
    ' ' :: counts.line.toList =
      Counter.all.flatMap fun counter => ' ' :: (counts.member counter).toList := by
  have line_eq : counts.line = " ".intercalate (Counter.all.map counts.member) := rfl
  rw [line_eq, String.toList_intercalate]
  have blank : " ".toList = [' '] := rfl
  rw [blank, blank_intercalate (by simp [Counter.all]), List.map_map, List.flatMap_map]
  rfl

end Counts

namespace Reporter

open Decimal

/-- The numbers of some counters, each named behind a blank, in a text that has nothing else. -/
def numbers? : List Counter → List Char → Option (List Nat)
  | [], text => if text = [] then some [] else none
  | counter :: counters, text => do
      let text ← skip? (" " ++ counter.name ++ "=") text
      let (number, text) ← number? text
      let numbers ← numbers? counters text
      some (number :: numbers)

/-- The counts in a report. -/
def reported? (entry : Entry) : Option Counts := do
  let text ← skip? "[stats]" entry.text.toList
  let numbers ← numbers? Counter.all text
  Counts.ofNumbers? numbers

theorem numbers?_members (counts : Counts) (counters : List Counter) :
    numbers? counters (counters.flatMap fun counter => ' ' :: (counts.member counter).toList) =
      some (counters.map counts.get) := by
  induction counters with
  | nil => rfl
  | cons counter counters ih =>
      generalize behind : (counters.flatMap fun counter => ' ' :: (counts.member counter).toList) = text
        at ih ⊢
      have ended : ∀ char ∈ text.head?, char.isDigit = false := by
        subst behind
        cases counters <;> simp
      have split : ' ' :: (counts.member counter).toList ++ text =
          (" " ++ counter.name ++ "=").toList ++ ((counts.get counter).repr.toList ++ text) := by
        simp [Counts.member]
      rw [List.flatMap_cons, behind, split, numbers?, skip?_append]
      simp only [Option.bind_eq_bind, Option.bind_some, number?_repr _ ended, ih, List.map_cons]

@[simp]
theorem reported?_entry (counts : Counts) : reported? (entry counts) = some counts := by
  have split : (entry counts).text.toList = "[stats]".toList ++ ' ' :: counts.line.toList := by
    simp [entry]
  rw [reported?, split, skip?_append, counts.toList_line]
  simp only [Option.bind_eq_bind, Option.bind_some, numbers?_members, Counts.ofNumbers?_get]

end Reporter

namespace Journal

/-- The counts in the reports of a journal. -/
def reported (journal : Journal) : List Counts :=
  journal.filterMap Reporter.reported?

theorem reported_concat (journal : Journal) (counts : Counts) :
    (journal ++ [Reporter.entry counts]).reported = journal.reported ++ [counts] := by
  simp [reported]

end Journal

end LogRelay
