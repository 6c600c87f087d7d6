import LogRelay.Pattern.Node

/-!
# Matching

A pattern is matched at a place of a text by trying its choices in order and going back to the last
choice that is left when a part does not match. What is still to do after the present part is a list
of frames, and the choices that are left are a stack of tasks, so nothing is kept on the call stack
but looks and atomic groups, which are matched on their own.

Every task has a cost, which bounds the number of steps that it can lead to. It is counted as if all
choices were taken, and it shrinks with every step, so matching ends on every text. A repetition
goes on after its least count only if its last round has moved on, so it has a budget of rounds: one
for each place of the text and those of its least count.
-/

namespace LogRelay.Pattern

/-- A place in a text: the characters before it, the nearest first, those after it, and how many are
before it. -/
structure Cursor where
  before : List Char
  rest : List Char
  index : Nat
  deriving DecidableEq, Repr

/-- What a group has captured: the text from its start on, and its length. -/
structure Capture where
  start : List Char
  length : Nat
  deriving DecidableEq, Repr

/-- How far a match has come. -/
structure State where
  cursor : Cursor
  captures : List (Nat × Capture)
  deriving DecidableEq, Repr

namespace Cursor

/-- The place before a text. -/
def start (text : List Char) : Cursor := ⟨[], text, 0⟩

/-- Passes over the next character if it passes a test. -/
def pass? (cursor : Cursor) (test : CharTest) : Option Cursor :=
  match cursor.rest with
  | [] => none
  | char :: rest =>
      if test.accepts char then some ⟨char :: cursor.before, rest, cursor.index + 1⟩ else none

/-- Goes back over so many characters. -/
def back? (cursor : Cursor) : (count : Nat) → Option Cursor
  | 0 => some cursor
  | count + 1 =>
      match cursor.before with
      | [] => none
      | char :: before => back? ⟨before, char :: cursor.rest, cursor.index - 1⟩ count

/-- Whether the characters before and after a place are in different classes of word characters,
outside the text counting as none. An empty text has neither boundaries nor their opposite. -/
def isBoundary (cursor : Cursor) (ascii : Bool) : Bool :=
  let isWord (chars : List Char) : Bool := match chars with
    | [] => false
    | char :: _ => Category.word.contains ascii char
  isWord cursor.before != isWord cursor.rest

/-- Whether a place is of a kind. -/
def isAt (cursor : Cursor) : Anchor → Bool
  | .textStart => cursor.before.isEmpty
  | .lineStart => cursor.before.isEmpty || cursor.before.head? == some '\n'
  | .textEnd => cursor.rest.isEmpty
  | .lineEnd => cursor.rest.isEmpty || cursor.rest.head? == some '\n'
  | .lastLineEnd => cursor.rest.isEmpty || cursor.rest == ['\n']
  | .boundary ascii negated =>
      !(cursor.before.isEmpty && cursor.rest.isEmpty) && cursor.isBoundary ascii != negated

/-- Passes over characters that pass a test, at most so many of those in the rest, and counts them. -/
def passAll (test : CharTest) (before : List Char) (index count : Nat) :
    (most : Option Nat) → List Char → Cursor × Nat
  | _, [] => (⟨before, [], index⟩, count)
  | most, char :: rest =>
      if most ≠ some 0 ∧ test.accepts char then
        passAll test (char :: before) (index + 1) (count + 1) (most.map (· - 1)) rest
      else (⟨before, char :: rest, index⟩, count)

/-- Passes over the same characters as others, as many as those are. -/
def passSame? (folding : Folding) (cursor : Cursor) : (length : Nat) → List Char → Option Cursor
  | 0, _ => some cursor
  | _ + 1, [] => none
  | length + 1, wanted :: others =>
      match cursor.rest with
      | [] => none
      | char :: rest =>
          if folding.same wanted char then
            passSame? folding ⟨char :: cursor.before, rest, cursor.index + 1⟩ length others
          else none

end Cursor

namespace State

/-- The state at another place. -/
def moveTo (state : State) (cursor : Cursor) : State := { state with cursor := cursor }

/-- What a group has captured. -/
def captured? (state : State) (group : Nat) : Option Capture :=
  state.captures.lookup group

/-- Notes what a group has captured. -/
def capture (state : State) (group : Nat) (start : List Char) (index : Nat) : State :=
  { state with
    captures := (group, ⟨start, state.cursor.index - index⟩) ::
      state.captures.filter fun (other, _) => other != group }

end State

/-- A part of what is still to do. -/
inductive Frame where
  /-- To match a node. -/
  | node (node : Node)
  /-- To note that a group that began at this text and index has ended. -/
  | close (group : Nat) (start : List Char) (index : Nat)
  /-- To go on with a repetition after so many rounds. The place is where the last round that was not
  required began. -/
  | again (body : Node) (least : Nat) (most : Option Nat) (greed : Greed) (rounds : Nat)
      (place : Option Nat) (budget : Nat)
  /-- To go on here, or after giving back up to so many characters. -/
  | shorten (slack : Nat)
  /-- To go on here, or after taking up to so many characters that pass a test. -/
  | lengthen (test : CharTest) (slack : Nat)

/-- A state and what is still to do from it. -/
structure Task where
  state : State
  frames : List Frame

/-- The cost of a run of which up to so many characters can be given back or taken. -/
def slackCost (after : Nat) : (slack : Nat) → Nat
  | 0 => 1 + after
  | slack + 1 => 1 + after + slackCost after slack

/-- The cost of a repetition with a budget of rounds. -/
def roundsCost (body : Nat → Nat) (alone after : Nat) : (budget : Nat) → Nat
  | 0 => 1 + after
  | budget + 1 => 1 + alone + body (roundsCost body alone after budget) + after +
      roundsCost body alone after budget

namespace Node

/-- How many rounds a repetition can have in a text of a length. -/
def budget (limit least : Nat) : Nat := least + limit + 2

/-- The cost of a node in a text of a length, when what comes after it has a cost. -/
def cost (limit : Nat) : Node → (after : Nat) → Nat
  | empty, after => 1 + after
  | test _, after => 1 + after
  | anchor _, after => 1 + after
  | backreference _ _, after => 1 + after
  | sequence first second, after => 1 + first.cost limit (second.cost limit after)
  | choice left right, after => 1 + left.cost limit after + right.cost limit after
  | capture _ body, after => 1 + body.cost limit (1 + after)
  | atomic body, after => 1 + body.cost limit 1 + after
  | ahead _ body, after => 1 + body.cost limit 1 + after
  | behind _ _ body, after => 1 + body.cost limit 1 + after
  | conditional _ yes no, after => 1 + yes.cost limit after + no.cost limit after
  | repetition least _ _ body, after =>
      1 + roundsCost (body.cost limit) (body.cost limit 1) after (budget limit least)
  | run _ _ _ _, after => 1 + slackCost after limit

end Node

namespace Frame

/-- The cost of a frame, when what comes after it has a cost. -/
def cost (limit : Nat) (frame : Frame) (after : Nat) : Nat :=
  match frame with
  | node item => item.cost limit after
  | close _ _ _ => 1 + after
  | again body _ _ _ _ _ budget => roundsCost (body.cost limit) (body.cost limit 1) after budget
  | shorten slack => slackCost after slack
  | lengthen _ slack => slackCost after slack

end Frame

/-- The cost of all that is still to do in a task. -/
def framesCost (limit : Nat) : List Frame → Nat
  | [] => 1
  | frame :: frames => frame.cost limit (framesCost limit frames)

/-- The cost of a stack of tasks. -/
def stackCost (limit : Nat) : List Task → Nat
  | [] => 0
  | task :: tasks => framesCost limit task.frames + stackCost limit tasks

theorem slackCost_mono (after : Nat) {slack limit : Nat} (slack_le : slack ≤ limit) :
    slackCost after slack ≤ slackCost after limit := by
  induction slack_le with
  | refl => exact Nat.le_refl _
  | step _ ih => simp only [slackCost]; omega

theorem lt_slackCost (after slack : Nat) : after < slackCost after slack := by
  cases slack <;> simp only [slackCost] <;> omega

/-- Whether a repetition may have another round that is not required. -/
def mayRepeat (most : Option Nat) (rounds : Nat) (place : Option Nat) (index : Nat) : Bool :=
  (match most with
    | some most => decide (rounds < most)
    | none => true) && place != some index

/-- How many more characters a run may take. -/
def slackOf (limit least : Nat) (most : Option Nat) : Nat :=
  match most with
  | some most => min (most - least) limit
  | none => limit

theorem slackOf_le (limit least : Nat) (most : Option Nat) : slackOf limit least most ≤ limit := by
  unfold slackOf
  split
  · exact Nat.min_le_right _ _
  · exact Nat.le_refl _

/-- Matches the tasks of a stack from the top until one is done, in a text of a length. -/
def runTasks (limit : Nat) : List Task → Option State
  | [] => none
  | ⟨state, []⟩ :: _ => some state
  | ⟨state, .close group start index :: frames⟩ :: tasks =>
      runTasks limit (⟨state.capture group start index, frames⟩ :: tasks)
  | ⟨state, .shorten 0 :: frames⟩ :: tasks => runTasks limit (⟨state, frames⟩ :: tasks)
  | ⟨state, .shorten (slack + 1) :: frames⟩ :: tasks =>
      match state.cursor.back? 1 with
      | some shorter =>
          runTasks limit
            (⟨state, frames⟩ :: ⟨state.moveTo shorter, .shorten slack :: frames⟩ :: tasks)
      | none => runTasks limit (⟨state, frames⟩ :: tasks)
  | ⟨state, .lengthen _ 0 :: frames⟩ :: tasks => runTasks limit (⟨state, frames⟩ :: tasks)
  | ⟨state, .lengthen test (slack + 1) :: frames⟩ :: tasks =>
      match state.cursor.pass? test with
      | some longer =>
          runTasks limit
            (⟨state, frames⟩ :: ⟨state.moveTo longer, .lengthen test slack :: frames⟩ :: tasks)
      | none => runTasks limit (⟨state, frames⟩ :: tasks)
  | ⟨state, .again _ _ _ _ _ _ 0 :: frames⟩ :: tasks => runTasks limit (⟨state, frames⟩ :: tasks)
  | ⟨state, .again body least most greed rounds place (budget + 1) :: frames⟩ :: tasks =>
      let required := decide (rounds < least)
      let here := if required then place else some state.cursor.index
      let more := Frame.again body least most greed (rounds + 1) here budget
      let free := !required && mayRepeat most rounds place state.cursor.index
      match greed with
      | .possessive =>
          if required || free then
            match runTasks limit [⟨state, [.node body]⟩] with
            | some after => runTasks limit (⟨after, more :: frames⟩ :: tasks)
            | none =>
                if required then runTasks limit tasks else runTasks limit (⟨state, frames⟩ :: tasks)
          else runTasks limit (⟨state, frames⟩ :: tasks)
      | .greedy =>
          if required then runTasks limit (⟨state, .node body :: more :: frames⟩ :: tasks)
          else if free then
            runTasks limit
              (⟨state, .node body :: more :: frames⟩ :: ⟨state, frames⟩ :: tasks)
          else runTasks limit (⟨state, frames⟩ :: tasks)
      | .reluctant =>
          if required then runTasks limit (⟨state, .node body :: more :: frames⟩ :: tasks)
          else if free then
            runTasks limit
              (⟨state, frames⟩ :: ⟨state, .node body :: more :: frames⟩ :: tasks)
          else runTasks limit (⟨state, frames⟩ :: tasks)
  | ⟨state, .node .empty :: frames⟩ :: tasks => runTasks limit (⟨state, frames⟩ :: tasks)
  | ⟨state, .node (.test test) :: frames⟩ :: tasks =>
      match state.cursor.pass? test with
      | some cursor => runTasks limit (⟨state.moveTo cursor, frames⟩ :: tasks)
      | none => runTasks limit tasks
  | ⟨state, .node (.anchor anchor) :: frames⟩ :: tasks =>
      if state.cursor.isAt anchor then runTasks limit (⟨state, frames⟩ :: tasks)
      else runTasks limit tasks
  | ⟨state, .node (.backreference group folding) :: frames⟩ :: tasks =>
      match (state.captured? group).bind fun capture =>
          state.cursor.passSame? folding capture.length capture.start with
      | some cursor => runTasks limit (⟨state.moveTo cursor, frames⟩ :: tasks)
      | none => runTasks limit tasks
  | ⟨state, .node (.sequence first second) :: frames⟩ :: tasks =>
      runTasks limit (⟨state, .node first :: .node second :: frames⟩ :: tasks)
  | ⟨state, .node (.choice left right) :: frames⟩ :: tasks =>
      runTasks limit (⟨state, .node left :: frames⟩ :: ⟨state, .node right :: frames⟩ :: tasks)
  | ⟨state, .node (.capture group body) :: frames⟩ :: tasks =>
      runTasks limit
        (⟨state, .node body :: .close group state.cursor.rest state.cursor.index :: frames⟩ :: tasks)
  | ⟨state, .node (.atomic body) :: frames⟩ :: tasks =>
      match runTasks limit [⟨state, [.node body]⟩] with
      | some after => runTasks limit (⟨after, frames⟩ :: tasks)
      | none => runTasks limit tasks
  | ⟨state, .node (.ahead negated body) :: frames⟩ :: tasks =>
      match negated, runTasks limit [⟨state, [.node body]⟩] with
      | false, some after => runTasks limit (⟨after.moveTo state.cursor, frames⟩ :: tasks)
      | true, none => runTasks limit (⟨state, frames⟩ :: tasks)
      | _, _ => runTasks limit tasks
  | ⟨state, .node (.behind negated width body) :: frames⟩ :: tasks =>
      match negated, (state.cursor.back? width).bind fun cursor =>
          runTasks limit [⟨state.moveTo cursor, [.node body]⟩] with
      | false, some after => runTasks limit (⟨after.moveTo state.cursor, frames⟩ :: tasks)
      | true, none => runTasks limit (⟨state, frames⟩ :: tasks)
      | _, _ => runTasks limit tasks
  | ⟨state, .node (.conditional group yes no) :: frames⟩ :: tasks =>
      if (state.captured? group).isSome then
        runTasks limit (⟨state, .node yes :: frames⟩ :: tasks)
      else runTasks limit (⟨state, .node no :: frames⟩ :: tasks)
  | ⟨state, .node (.repetition least most greed body) :: frames⟩ :: tasks =>
      runTasks limit
        (⟨state, .again body least most greed 0 none (Node.budget limit least) :: frames⟩ :: tasks)
  | ⟨state, .node (.run least most greed test) :: frames⟩ :: tasks =>
      let cursor := state.cursor
      let taken :=
        Cursor.passAll test cursor.before cursor.index 0
          (if greed = .reluctant then some least else most) cursor.rest
      if taken.2 < least then runTasks limit tasks
      else
        let after := state.moveTo taken.1
        match greed with
        | .possessive => runTasks limit (⟨after, frames⟩ :: tasks)
        | .greedy =>
            runTasks limit (⟨after, .shorten (min (taken.2 - least) limit) :: frames⟩ :: tasks)
        | .reluctant =>
            runTasks limit
              (⟨after, .lengthen test (slackOf limit least most) :: frames⟩ :: tasks)
termination_by tasks => stackCost limit tasks
decreasing_by
  all_goals
    simp only [stackCost, framesCost, Frame.cost, Node.cost, roundsCost, slackCost]
    first
      | omega
      | have least_lt := lt_slackCost (framesCost limit frames) limit
        omega
      | refine Nat.add_lt_add_right (Nat.lt_one_add_iff.mpr (slackCost_mono _ ?_)) _
        first
          | exact Nat.min_le_right _ _
          | exact slackOf_le _ _ _

/-- Looks for a match at a place and at every place after it. -/
def searchFrom (root : Node) (limit : Nat) (before : List Char) (index : Nat) :
    (rest : List Char) → Option State
  | [] => runTasks limit [⟨⟨⟨before, [], index⟩, []⟩, [.node root]⟩]
  | char :: rest =>
      match runTasks limit [⟨⟨⟨before, char :: rest, index⟩, []⟩, [.node root]⟩] with
      | some state => some state
      | none => searchFrom root limit (char :: before) (index + 1) rest

/-- Looks for the first match in a text. -/
def search (root : Node) (text : List Char) : Option State :=
  searchFrom root text.length [] 0 text

end LogRelay.Pattern

namespace LogRelay

/-- A search pattern: its text and what it matches. -/
structure Pattern where
  text : String
  root : Pattern.Node

namespace Pattern

/-- The pattern that a text stands for. -/
def ofText (text : String) : Except Fault Pattern := do
  let progress ← read text
  let root ← Node.ofTree progress.widthOf progress.switches progress.tree
  pure ⟨text, root⟩

/-- Whether a pattern matches somewhere in a text. -/
def occursIn (pattern : Pattern) (text : String) : Bool :=
  (search pattern.root text.toList).isSome

end Pattern

end LogRelay
