/-!
# A place in a document

A place knows what follows it, how many characters lie before it, and on which line and in which column
it is. The end of the text counts as the end of a line, and as a blank.
-/

namespace LogRelay.Yaml

/-- Whether a character ends a line. -/
def isBreak (char : Char) : Bool :=
  char == '\n' || char == '\x85' || char == '\u2028' || char == '\u2029'

/-- Whether a place ends a line: the end of the text or a character that does. -/
def endsLine : Option Char → Bool
  | none => true
  | some char => isBreak char

/-- Whether a place ends a word: the end of a line or a space. -/
def endsWord : Option Char → Bool
  | none => true
  | some char => char == ' ' || isBreak char

/-- Whether a place is blank: the end of a word or a tabulator. -/
def isGap : Option Char → Bool
  | none => true
  | some char => char == ' ' || char == '\t' || isBreak char

/-- A place in a document. -/
structure Cursor where
  rest : List Char
  index : Nat
  line : Nat
  column : Nat

namespace Cursor

/-- The place before a text. -/
def start (text : List Char) : Cursor := ⟨text, 0, 0, 0⟩

/-- The next character. -/
def peek (cursor : Cursor) : Option Char := cursor.rest.head?

/-- The character after so many others. -/
def peekAt (cursor : Cursor) (count : Nat) : Option Char := cursor.rest[count]?

/-- Whether a character comes next. -/
def isAt (cursor : Cursor) (char : Char) : Bool := cursor.rest.head? == some char

/-- The place behind the next character. A byte order mark takes no column. -/
def next (cursor : Cursor) : Cursor :=
  match cursor.rest with
  | [] => cursor
  | char :: rest =>
      if isBreak char then ⟨rest, cursor.index + 1, cursor.line + 1, 0⟩
      else ⟨rest, cursor.index + 1, cursor.line,
        if char = '\uFEFF' then cursor.column else cursor.column + 1⟩

/-- The place so many characters further on. -/
def skip (cursor : Cursor) : (count : Nat) → Cursor
  | 0 => cursor
  | count + 1 => cursor.next.skip count

/-- The characters of a class that come next, and the place behind them. -/
def takeWhile (cursor : Cursor) (test : Char → Bool) : List Char × Cursor :=
  let taken := cursor.rest.takeWhile test
  (taken, cursor.skip taken.length)

/-- The place behind the spaces that come next. -/
def skipSpaces (cursor : Cursor) : Cursor :=
  (cursor.takeWhile (· == ' ')).2

/-- The place at the end of the line. -/
def skipLine (cursor : Cursor) : Cursor :=
  (cursor.takeWhile fun char => !isBreak char).2

/-- The place behind the spaces that come next and behind a comment after them. -/
def skipComment (cursor : Cursor) : Cursor :=
  let cursor := cursor.skipSpaces
  if cursor.isAt '#' then cursor.skipLine else cursor

/-- The end of a line that comes next, as a text has it, and the place behind it. -/
def lineBreak (cursor : Cursor) : List Char × Cursor :=
  match cursor.peek with
  | some char =>
      if char == '\n' || char == '\x85' then (['\n'], cursor.next)
      else if isBreak char then ([char], cursor.next)
      else ([], cursor)
  | none => ([], cursor)

/-- Whether three equal characters stand alone here. -/
def isMarker (cursor : Cursor) (char : Char) : Bool :=
  cursor.rest.take 3 == [char, char, char] && isGap (cursor.peekAt 3)

/-- Whether a mark between documents stands here. -/
def isSeparator (cursor : Cursor) : Bool :=
  cursor.isMarker '-' || cursor.isMarker '.'

end Cursor

end LogRelay.Yaml
