import LogRelay.Pattern.Match
import Mathlib.Data.List.Infix

/-!
# Searching for plain patterns

A plain pattern is put together from tests of one character by sequence and choice. The texts that it
takes are told by its shape (`Node.Takes`), without a matcher.

The matcher has a stack of tasks and turns to a lower one when all that the top one leads to has failed.
So what a task finds is told by its frames alone, whatever is below it (`Finds`). From one step for each
kind of node follows what frames find with a plain node put before them, by induction on the node
(`Finds.node`). The search tries one place after the other, and it finds a plain pattern exactly if the
pattern takes a part of the text (`search_isSome_iff`).
-/

namespace LogRelay.Pattern

namespace Node

/-- Whether a node is put together from tests of one character by sequence and choice. -/
def IsPlain : Node → Prop
  | empty | test _ => True
  | sequence first second => first.IsPlain ∧ second.IsPlain
  | choice left right => left.IsPlain ∧ right.IsPlain
  | _ => False

/-- Whether a plain node takes a text, all of it. -/
def Takes : Node → List Char → Prop
  | empty, taken => taken = []
  | test single, taken => ∃ char, single.accepts char = true ∧ taken = [char]
  | sequence first second, taken =>
      ∃ head tail, first.Takes head ∧ second.Takes tail ∧ taken = head ++ tail
  | choice left right, taken => left.Takes taken ∨ right.Takes taken
  | _, _ => False

end Node

variable {limit : Nat} {frames : List Frame}

/-! ## What the frames of a task find -/

/-- A task with these frames succeeds exactly at the places where the rest of the text fulfils the goal,
and leaves it to the tasks below it everywhere else. -/
def Finds (limit : Nat) (frames : List Frame) (goal : List Char → Prop) : Prop :=
  ∀ (state : State) (tasks : List Task),
    (runTasks limit (⟨state, frames⟩ :: tasks)).isSome ↔
      goal state.cursor.rest ∨ (runTasks limit tasks).isSome

namespace Finds

theorem congr {goal other : List Char → Prop} (finds : Finds limit frames goal)
    (same : ∀ rest, goal rest ↔ other rest) : Finds limit frames other := by
  intro state tasks
  rw [finds state tasks, same]

theorem nil : Finds limit [] fun _ => True := by
  intro state tasks
  rw [runTasks]
  simp

variable {goal : List Char → Prop}

theorem empty (finds : Finds limit frames goal) : Finds limit (.node .empty :: frames) goal := by
  intro state tasks
  rw [runTasks]
  exact finds state tasks

theorem test (finds : Finds limit frames goal) (single : CharTest) :
    Finds limit (.node (.test single) :: frames) fun rest =>
      ∃ char left, rest = char :: left ∧ single.accepts char = true ∧ goal left := by
  intro state tasks
  rw [runTasks]
  rcases state with ⟨⟨before, rest, index⟩, captures⟩
  rcases rest with _ | ⟨char, left⟩
  · simp [Cursor.pass?]
  · by_cases accepts : single.accepts char = true
    · simp only [Cursor.pass?, accepts, if_true]
      rw [finds]
      simp [State.moveTo, accepts]
    · simp [Cursor.pass?, accepts]

theorem sequence {first second : Node}
    (finds : Finds limit (.node first :: .node second :: frames) goal) :
    Finds limit (.node (.sequence first second) :: frames) goal := by
  intro state tasks
  rw [runTasks]
  exact finds state tasks

theorem choice {left right : Node} {other : List Char → Prop}
    (finds_left : Finds limit (.node left :: frames) goal)
    (finds_right : Finds limit (.node right :: frames) other) :
    Finds limit (.node (.choice left right) :: frames) fun rest => goal rest ∨ other rest := by
  intro state tasks
  -- The task for the right side is put just below the one for the left side.
  rw [runTasks, finds_left, finds_right, or_assoc]

/-- A plain node takes a first part of the rest, and what is left is for the frames behind it. -/
theorem node {node : Node} (plain : node.IsPlain) (finds : Finds limit frames goal) :
    Finds limit (.node node :: frames) fun rest =>
      ∃ taken left, rest = taken ++ left ∧ node.Takes taken ∧ goal left := by
  induction node generalizing frames goal with
  | empty =>
      apply finds.empty.congr
      intro rest
      simp [Node.Takes]
  | test single =>
      apply (finds.test single).congr
      intro rest
      constructor
      · rintro ⟨char, left, rfl, accepts, reached⟩
        exact ⟨[char], left, rfl, ⟨char, accepts, rfl⟩, reached⟩
      · rintro ⟨-, left, rfl, ⟨char, accepts, rfl⟩, reached⟩
        exact ⟨char, left, rfl, accepts, reached⟩
  | sequence first second ihFirst ihSecond =>
      apply (ihFirst plain.1 (ihSecond plain.2 finds)).sequence.congr
      intro rest
      constructor
      · rintro ⟨head, -, rfl, takes_head, tail, left, rfl, takes_tail, reached⟩
        exact ⟨head ++ tail, left, by simp, ⟨head, tail, takes_head, takes_tail, rfl⟩, reached⟩
      · rintro ⟨-, left, rfl, ⟨head, tail, takes_head, takes_tail, rfl⟩, reached⟩
        exact ⟨head, tail ++ left, by simp, takes_head, tail, left, rfl, takes_tail, reached⟩
  | choice left right ihLeft ihRight =>
      apply ((ihLeft plain.1 finds).choice (ihRight plain.2 finds)).congr
      intro rest
      simp only [Node.Takes, or_and_right, and_or_left, exists_or]
  | anchor | backreference | capture | atomic | ahead | behind | conditional | repetition | run =>
      exact plain.elim

end Finds

/-! ## Trying every place -/

/-- The search succeeds exactly if the pattern matches at some place, be it the end of the text. -/
theorem searchFrom_isSome_iff (root : Node) (before : List Char) (index : Nat) (rest : List Char) :
    (searchFrom root limit before index rest).isSome ↔
      ∃ passed left, rest = passed ++ left ∧
        (runTasks limit [⟨⟨⟨passed.reverse ++ before, left, index + passed.length⟩, []⟩,
          [.node root]⟩]).isSome := by
  induction rest generalizing before index with
  | nil => simp [searchFrom]
  | cons char rest ih =>
      rw [searchFrom]
      cases here : runTasks limit [⟨⟨⟨before, char :: rest, index⟩, []⟩, [.node root]⟩] with
      | some state =>
          simp only [Option.isSome_some, true_iff]
          exact ⟨[], char :: rest, rfl, Option.isSome_of_mem here⟩
      | none =>
          rw [ih]
          constructor
          · rintro ⟨passed, left, rfl, found⟩
            refine ⟨char :: passed, left, rfl, ?_⟩
            simpa [Nat.add_comm, Nat.add_left_comm] using found
          · rintro ⟨passed, left, split, found⟩
            rcases List.cons_eq_append_iff.mp split with ⟨rfl, rfl⟩ | ⟨passed, rfl, rfl⟩
            · simp [here] at found
            · refine ⟨passed, left, rfl, ?_⟩
              simpa [Nat.add_comm, Nat.add_left_comm] using found

/-- A plain pattern is found in a text exactly if it takes a part of the text, wherever that is. -/
theorem search_isSome_iff {root : Node} (plain : root.IsPlain) (text : List Char) :
    (search root text).isSome ↔ ∃ taken, root.Takes taken ∧ taken <:+: text := by
  have matches_iff : ∀ state : State, (runTasks text.length [⟨state, [.node root]⟩]).isSome ↔
      ∃ taken left, state.cursor.rest = taken ++ left ∧ root.Takes taken := by
    intro state
    rw [Finds.nil.node plain state []]
    simp [runTasks]
  simp only [search, searchFrom_isSome_iff, matches_iff]
  constructor
  · rintro ⟨passed, -, rfl, taken, left, rfl, takes⟩
    exact ⟨taken, takes, passed, left, by simp⟩
  · rintro ⟨taken, takes, passed, left, rfl⟩
    exact ⟨passed, taken ++ left, by simp, taken, left, rfl, takes⟩

end LogRelay.Pattern
