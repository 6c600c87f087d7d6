import LogRelay.Pattern.Reader

/-!
# Patterns as they are matched

A pattern is matched in a form in which its switches have been worked into its parts, so that each
test of a character and each place is complete in itself. A repetition of one test is a run, which
needs no stack, and a look behind knows how far it goes back.
-/

namespace LogRelay.Pattern

/-- A test of one character. -/
inductive CharTest where
  | anything
  | notLineEnd
  | member (set : CharSet) (ignoreCase ascii : Bool)
  deriving DecidableEq, Repr

namespace SetItem

/-- Whether a member of a set stands for a character as it is. -/
def matchesChar (ascii : Bool) (char : Char) : SetItem → Bool
  | code wanted => char.toNat == wanted
  | range low high => low ≤ char.toNat && char.toNat ≤ high
  | category kind negated => kind.contains ascii char != negated

/-- Whether a member of a set stands for a character in either case, of the letters of ASCII. -/
def matchesAsciiFolded (char : Char) : SetItem → Bool
  | code wanted => Text.asciiLowerCode char.toNat == Text.asciiLowerCode wanted
  | range low high =>
      let lower := Text.asciiLowerCode char.toNat
      let upper := if 97 ≤ lower && lower ≤ 122 then lower - 32 else lower
      (low ≤ lower && lower ≤ high) || (low ≤ upper && upper ≤ high)
  | category kind negated => kind.contains true char != negated

/-- Whether a member of a set stands for a character in any case. -/
def matchesFolded (char : Char) : SetItem → Bool
  | code wanted =>
      let lower := Text.lowerCode char.toNat
      let wantedLower := Text.lowerCode wanted
      lower == wantedLower || (Text.caseFamily lower).contains wantedLower
  | range low high =>
      (low ≤ char.toNat && char.toNat ≤ high) ||
        (Text.caseVariants char.toNat).any fun code => low ≤ code && code ≤ high
  | category kind negated => kind.contains false char != negated

end SetItem

namespace CharTest

/-- Whether a character passes the test. -/
def accepts (test : CharTest) (char : Char) : Bool :=
  match test with
  | anything => true
  | notLineEnd => char != '\n'
  | member set ignoreCase ascii =>
      (set.items.any fun item =>
        if !ignoreCase then item.matchesChar ascii char
        else if ascii then item.matchesAsciiFolded char
        else item.matchesFolded char) != set.negated

end CharTest

/-- Whether letters that differ in case count as the same, and of which alphabet. -/
inductive Folding where
  | none
  | ascii
  | unicode
  deriving DecidableEq, Repr

namespace Folding

/-- Whether two characters count as the same. -/
def same (folding : Folding) (left right : Char) : Bool :=
  match folding with
  | none => left == right
  | ascii => Text.asciiLowerCode left.toNat == Text.asciiLowerCode right.toNat
  | unicode => Text.lowerCode left.toNat == Text.lowerCode right.toNat

end Folding

/-- A place in a text. -/
inductive Anchor where
  | textStart
  | lineStart
  | textEnd
  | lineEnd
  /-- The end of the text, or before a line end that ends the text. -/
  | lastLineEnd
  | boundary (ascii negated : Bool)
  deriving DecidableEq, Repr

/-- A search pattern as it is matched. -/
inductive Node where
  | empty
  | test (test : CharTest)
  | anchor (anchor : Anchor)
  | backreference (group : Nat) (folding : Folding)
  | sequence (first second : Node)
  | choice (left right : Node)
  | capture (group : Nat) (body : Node)
  | atomic (body : Node)
  | ahead (negated : Bool) (body : Node)
  | behind (negated : Bool) (width : Nat) (body : Node)
  | conditional (group : Nat) (yes no : Node)
  | repetition (least : Nat) (most : Option Nat) (greed : Greed) (body : Node)
  | run (least : Nat) (most : Option Nat) (greed : Greed) (test : CharTest)
  deriving Repr

namespace Place

/-- The place that a pattern names, under its switches. -/
def anchor (switches : Switches) : Place → Anchor
  | lineStart => if switches.multiline then .lineStart else .textStart
  | lineEnd => if switches.multiline then .lineEnd else .lastLineEnd
  | textStart => .textStart
  | textEnd => .textEnd
  | boundary => .boundary switches.ascii false
  | noBoundary => .boundary switches.ascii true

end Place

namespace Node

/-- A repetition of a part. -/
def repeated (least : Nat) (most : Option Nat) (greed : Greed) : Node → Node
  | test single => run least most greed single
  | body => repetition least most greed body

/-- Works switches into a tree. A look behind must have one width, below 2^32, and a pattern that is
switched to be a template has no repetitions. -/
def ofTree (groups : Nat → Width) (switches : Switches) : Tree → Except Fault Node
  | .empty => .ok empty
  | .chars set => .ok (test (.member set switches.ignoreCase switches.ascii))
  | .any => .ok (test (if switches.dotAll then .anything else .notLineEnd))
  | .place place => .ok (anchor (place.anchor switches))
  | .backreference group =>
      .ok (backreference group
        (if !switches.ignoreCase then .none else if switches.ascii then .ascii else .unicode))
  | .sequence first second => do
      pure (sequence (← ofTree groups switches first) (← ofTree groups switches second))
  | .choice left right => do
      pure (choice (← ofTree groups switches left) (← ofTree groups switches right))
  | .group number on off body => do
      let body ← ofTree groups (switches.inside on off) body
      match number with
      | some number => pure (capture number body)
      | none => pure body
  | .atomic body => do pure (atomic (← ofTree groups switches body))
  | .look isBehind negated body => do
      let node ← ofTree groups switches body
      if isBehind then
        let width := body.width groups
        if width.most ≠ some width.least ∨ 0x100000000 ≤ width.least then throw .invalid
        pure (behind negated width.least node)
      else pure (ahead negated node)
  | .conditional group yes no => do
      pure (conditional group (← ofTree groups switches yes) (← ofTree groups switches no))
  | .repetition least most greed body => do
      if switches.template then throw .invalid
      let body ← ofTree groups switches body
      pure (repeated least most greed body)

end Node

end LogRelay.Pattern
