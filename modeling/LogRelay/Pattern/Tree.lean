import LogRelay.Text.Digit
import LogRelay.Text.Letter
import LogRelay.Text.Lowercase

/-!
# Patterns as they are written

The parts of a search pattern: sets of characters, places in the text, groups, alternatives and
repetitions. Letters in a pattern change its meaning for the whole pattern or for a group, so a tree
keeps the switches of each group.

The width of a tree is the least and the greatest number of characters that it can take, which tells
how far a look behind has to go back.
-/

namespace LogRelay.Pattern

/-- Classes of characters that have a letter of their own. -/
inductive Category where
  | digit
  | blank
  | word
  deriving DecidableEq, Repr

namespace Category

/-- Whether a character belongs to a class, in all of Unicode or in ASCII only. -/
def contains (category : Category) (ascii : Bool) (char : Char) : Bool :=
  if ascii then
    match category with
    | digit => char.isDigit
    | blank => Text.isPlainBlank char
    | word => char.isAlphanum || char == '_'
  else
    match category with
    | digit => Text.isDigit char
    | blank => Text.isBlank char
    | word => Text.isAlphanumeric char || char == '_'

end Category

/-- A member of a set of characters. Characters are told by their codes, which also reach codes that
no text holds. -/
inductive SetItem where
  | code (code : Nat)
  | range (low high : Nat)
  | category (category : Category) (negated : Bool)
  deriving DecidableEq, Repr

/-- A set of characters, or all characters outside a set. -/
structure CharSet where
  negated : Bool
  items : List SetItem
  deriving DecidableEq, Repr

namespace CharSet

/-- The set of one character. -/
def single (char : Char) : CharSet := ⟨false, [.code char.toNat]⟩

end CharSet

/-- The switches that letters in a pattern turn on and off. -/
structure Switches where
  ignoreCase : Bool := false
  multiline : Bool := false
  dotAll : Bool := false
  verbose : Bool := false
  ascii : Bool := false
  unicode : Bool := false
  template : Bool := false
  deriving DecidableEq, Repr

namespace Switches

/-- The switches that are on in either. -/
def union (left right : Switches) : Switches :=
  ⟨left.ignoreCase || right.ignoreCase, left.multiline || right.multiline,
    left.dotAll || right.dotAll, left.verbose || right.verbose, left.ascii || right.ascii,
    left.unicode || right.unicode, left.template || right.template⟩

/-- Whether some switch is on in both. -/
def meets (left right : Switches) : Bool :=
  (left.ignoreCase && right.ignoreCase) || (left.multiline && right.multiline) ||
    (left.dotAll && right.dotAll) || (left.verbose && right.verbose) ||
    (left.ascii && right.ascii) || (left.unicode && right.unicode) ||
    (left.template && right.template)

/-- The switches inside a group that turns some on and some off. The choice of an alphabet inside the
group replaces the one outside. -/
def inside (outer on off : Switches) : Switches :=
  ⟨(outer.ignoreCase || on.ignoreCase) && !off.ignoreCase,
    (outer.multiline || on.multiline) && !off.multiline,
    (outer.dotAll || on.dotAll) && !off.dotAll,
    (outer.verbose || on.verbose) && !off.verbose,
    (outer.ascii || on.ascii) && !on.unicode,
    (outer.unicode || on.unicode) && !on.ascii,
    outer.template⟩

end Switches

/-- How a repetition uses its freedom: as often as possible and then less, as seldom as possible and
then more, or as often as possible for good. -/
inductive Greed where
  | greedy
  | reluctant
  | possessive
  deriving DecidableEq, Repr

/-- Places in a text as a pattern names them. -/
inductive Place where
  | lineStart
  | lineEnd
  | textStart
  | textEnd
  | boundary
  | noBoundary
  deriving DecidableEq, Repr

/-- A search pattern as it is written. -/
inductive Tree where
  | empty
  | chars (set : CharSet)
  | any
  | place (place : Place)
  | backreference (group : Nat)
  | sequence (first second : Tree)
  | choice (left right : Tree)
  /-- A group, which captures what it takes if it has a number. -/
  | group (number : Option Nat) (on off : Switches) (body : Tree)
  | atomic (body : Tree)
  | look (behind negated : Bool) (body : Tree)
  /-- One of two trees, by whether a group has captured. -/
  | conditional (group : Nat) (yes no : Tree)
  | repetition (least : Nat) (most : Option Nat) (greed : Greed) (body : Tree)
  deriving Repr

/-- The least number of characters that a tree takes, and the greatest if there is one. -/
structure Width where
  least : Nat
  most : Option Nat
  deriving DecidableEq, Repr

namespace Width

/-- The width of what always takes so many characters. -/
def exactly (count : Nat) : Width := ⟨count, some count⟩

/-- The width of one thing after another. -/
def plus (first second : Width) : Width :=
  ⟨first.least + second.least,
    match first.most, second.most with
    | some left, some right => some (left + right)
    | _, _ => none⟩

/-- The width of one thing or another. -/
def either (first second : Width) : Width :=
  ⟨min first.least second.least,
    match first.most, second.most with
    | some left, some right => some (max left right)
    | _, _ => none⟩

/-- The width of a repetition. -/
def times (width : Width) (least : Nat) (most : Option Nat) : Width :=
  ⟨width.least * least,
    match width.most, most with
    | some 0, _ => some 0
    | some size, some count => some (size * count)
    | _, _ => none⟩

end Width

namespace Tree

/-- The width of a tree, given those of the groups that it refers to. -/
def width (groups : Nat → Width) : Tree → Width
  | empty | place _ | look _ _ _ => .exactly 0
  | chars _ | any => .exactly 1
  | backreference number => groups number
  | sequence first second => (first.width groups).plus (second.width groups)
  | choice left right => (left.width groups).either (right.width groups)
  | group _ _ _ body => body.width groups
  | atomic body => body.width groups
  | conditional _ yes no => (yes.width groups).either (no.width groups)
  | repetition least most _ body => (body.width groups).times least most

/-- Trees one after another, the last of them first. -/
def ofReversed (items : List Tree) : Tree :=
  items.foldl (fun rest item => sequence item rest) empty

/-- Alternatives, the last of them first and after a last one. -/
def choices (last : Tree) (earlier : List Tree) : Tree :=
  earlier.foldl (fun rest branch => choice branch rest) last

/-- Whether a tree is a place, which cannot be repeated. -/
def isPlace : Tree → Bool
  | place _ => true
  | _ => false

/-- Whether a tree is a repetition, which cannot be repeated again. -/
def isRepetition : Tree → Bool
  | repetition _ _ _ _ => true
  | _ => false

end Tree

/-- Why a text is no pattern. -/
inductive Fault where
  /-- The text breaks the rules of patterns. -/
  | invalid
  /-- A repetition count or a character code is beyond any bound. -/
  | tooLarge
  /-- A repetition count has more digits than are read. -/
  | tooLong
  /-- The pattern is switched to ASCII and to Unicode at once. -/
  | clashing
  deriving DecidableEq, Repr

end LogRelay.Pattern
