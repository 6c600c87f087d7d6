import LogRelay.Number.Numeral
import LogRelay.Text.Wording
import LogRelay.Yaml.Cursor
import LogRelay.Yaml.Fault

/-!
# Scalars as they are written

A scalar is written plainly, between quotes, or as a block of lines. In each form the lines are folded
by a rule of its own: a single end of line becomes a space, and every further one stays.

Readers go from place to place. The text that is left grows shorter, which ends every loop.
-/

namespace LogRelay.Yaml

/-- Whether a character is a hexadecimal digit. -/
def isHexDigit (char : Char) : Bool :=
  char.isDigit || ('a' ≤ char && char ≤ 'f') || ('A' ≤ char && char ≤ 'F')

/-- The value of a hexadecimal digit. -/
def hexDigitValue (char : Char) : Nat :=
  if char.isDigit then char.toNat - 48
  else if char.isLower then char.toNat - 87
  else char.toNat - 55

/-- The number that hexadecimal digits stand for. -/
def ofHexDigits (digits : List Char) : Nat :=
  digits.foldl (fun number digit => 16 * number + hexDigitValue digit) 0

/-- The number that exactly so many hexadecimal digits tell. -/
def readHex (cursor : Cursor) (places : Nat) : Except Fault (Nat × Cursor) :=
  let digits := cursor.rest.take places
  if digits.length = places && digits.all isHexDigit then
    .ok (ofHexDigits digits, cursor.skip places)
  else .error .invalid

/-! ## Between quotes -/

/-- The ends of lines that come next, with the blanks at the beginnings of the lines left out. -/
def foldedBreaks (cursor : Cursor) (read : List Char) : Except Fault (List Char × Cursor) :=
  if cursor.isSeparator then .error .invalid
  else
    let after := (cursor.takeWhile fun char => char == ' ' || char == '\t').2
    let (written, next) := after.lineBreak
    if written.isEmpty then .ok (read, after)
    else if next.rest.length < cursor.rest.length then foldedBreaks next (read ++ written)
    else .error .invalid
termination_by cursor.rest.length

/-- The blanks or ends of lines between two words. -/
def quotedGap (cursor : Cursor) : Except Fault (List Char × Cursor) := do
  let (blanks, after) := cursor.takeWhile fun char => char == ' ' || char == '\t'
  if after.rest.isEmpty then throw .invalid
  let (written, next) := after.lineBreak
  if written.isEmpty then pure (blanks, after)
  else
    let (breaks, next) ← foldedBreaks next []
    if written ≠ ['\n'] then pure (written ++ breaks, next)
    else if breaks.isEmpty then pure ([' '], next)
    else pure (breaks, next)

/-- The character that a letter behind a backslash stands for. -/
def escaped? : Char → Option Char
  | '0' => some '\x00'
  | 'a' => some '\x07'
  | 'b' => some '\x08'
  | 't' => some '\t'
  | '\t' => some '\t'
  | 'n' => some '\n'
  | 'v' => some '\x0B'
  | 'f' => some '\x0C'
  | 'r' => some '\r'
  | 'e' => some '\x1B'
  | ' ' => some ' '
  | '"' => some '"'
  | '\\' => some '\\'
  | '/' => some '/'
  | 'N' => some '\x85'
  | '_' => some '\xA0'
  | 'L' => some '\u2028'
  | 'P' => some '\u2029'
  | _ => none

/-- How many digits tell a code after a letter behind a backslash. -/
def codePlaces? : Char → Option Nat
  | 'x' => some 2
  | 'u' => some 4
  | 'U' => some 8
  | _ => none

/-- The glyph of a code, which can be half of a surrogate pair. -/
def ofCode (code : Nat) : Except Fault Glyph :=
  if 0x80000000 ≤ code then .error .hugeCode
  else if 0x110000 ≤ code then .error .noSuchCharacter
  else if half : code - Glyph.firstHalf < 0x800 ∧ Glyph.firstHalf ≤ code then
    .ok (.half ⟨code - Glyph.firstHalf, half.1⟩)
  else .ok (.char (Char.ofNat code))

/-- What a backslash and the characters behind it stand for. -/
def readEscape (cursor : Cursor) : Except Fault (Wording × Cursor) := do
  match cursor.peek with
  | none => throw .invalid
  | some letter =>
      match escaped? letter, codePlaces? letter with
      | some char, _ => pure ([.char char], cursor.next)
      | none, some places =>
          let (code, after) ← readHex cursor.next places
          pure ([← ofCode code], after)
      | none, none =>
          if isBreak letter then do
            let (breaks, after) ← foldedBreaks cursor.next []
            pure (breaks.map .char, after)
          else throw .invalid

/-- Whether a character may stand in a word between quotes as it is. -/
def isQuotedPlain (char : Char) : Bool :=
  char != '\'' && char != '"' && char != '\\' && !isGap (some char)

/-- The word between quotes that comes next. -/
def quotedWord (double : Bool) (cursor : Cursor) (read : Wording) : Except Fault (Wording × Cursor) :=
  let (plain, after) := cursor.takeWhile isQuotedPlain
  let read := read ++ plain.map .char
  let step : Option (Except Fault (Wording × Cursor)) := match after.peek with
    | some '\'' =>
        if double then some (.ok ("'", after.next))
        else if after.peekAt 1 == some '\'' then some (.ok ("'", after.skip 2))
        else none
    | some '"' => if double then none else some (.ok ("\"", after.next))
    | some '\\' => some (if double then readEscape after.next else .ok ("\\", after.next))
    | _ => none
  match step with
  | none => .ok (read, after)
  | some (.error fault) => .error fault
  | some (.ok (more, next)) =>
      if next.rest.length < cursor.rest.length then quotedWord double next (read ++ more)
      else .error .invalid
termination_by cursor.rest.length

/-- The words up to the quote that ends the scalar. -/
def quotedWords (double : Bool) (cursor : Cursor) (read : Wording) : Except Fault (Wording × Cursor) :=
  if cursor.isAt (if double then '"' else '\'') then .ok (read, cursor.next)
  else
    let step : Except Fault (Wording × Cursor) := do
      let (gap, after) ← quotedGap cursor
      let (word, next) ← quotedWord double after []
      pure (gap.map .char ++ word, next)
    match step with
    | .error fault => .error fault
    | .ok (more, next) =>
        if next.rest.length < cursor.rest.length then quotedWords double next (read ++ more)
        else .error .invalid
termination_by cursor.rest.length

/-- The scalar whose first quote comes next. -/
def readQuoted (double : Bool) (cursor : Cursor) : Except Fault (Wording × Cursor) := do
  let (word, after) ← quotedWord double cursor.next []
  quotedWords double after word

/-! ## In the plain -/

/-- The ends of lines that come next, with the spaces between them left out, up to a mark between
documents. -/
def plainBreaks (cursor : Cursor) (read : List Char) : Option (List Char) × Cursor :=
  let after := cursor.skipSpaces
  let (written, next) := after.lineBreak
  if written.isEmpty then (some read, after)
  else if next.isSeparator then (none, next)
  else if next.rest.length < cursor.rest.length then plainBreaks next (read ++ written)
  else (some read, after)
termination_by cursor.rest.length

/-- What stands between two parts of a plain scalar. -/
structure PlainGap where
  /-- The text between the parts, none when the scalar ends here. -/
  text : Option (List Char)
  /-- A line has ended. -/
  brokeLine : Bool
  cursor : Cursor

/-- The spaces or ends of lines after a part of a plain scalar. -/
def plainGap (cursor : Cursor) : PlainGap :=
  let (spaces, after) := cursor.takeWhile (· == ' ')
  let (written, next) := after.lineBreak
  if written.isEmpty then ⟨if spaces.isEmpty then none else some spaces, false, after⟩
  else if next.isSeparator then ⟨none, true, next⟩
  else match plainBreaks next [] with
    | (none, next) => ⟨none, true, next⟩
    | (some breaks, next) =>
        ⟨some (if written ≠ ['\n'] then written ++ breaks
          else if breaks.isEmpty then [' '] else breaks), true, next⟩

/-- The characters that end a plain scalar inside a flow. -/
def isFlowMark (char : Char) : Bool :=
  char == ',' || char == '[' || char == ']' || char == '\x7b' || char == '\x7d'

/-- The part of a plain scalar that comes next. -/
def plainPart (inFlow : Bool) : List Char → List Char
  | [] => []
  | char :: rest =>
      let follower := rest.head?
      if isGap (some char) then []
      else if char == ':' && (isGap follower || (inFlow && follower.any isFlowMark)) then []
      else if inFlow && (isFlowMark char || char == '?') then []
      else char :: plainPart inFlow rest

/-- A plain scalar as it is read: its text, whether it ended at the end of a line, and the place
behind. -/
structure PlainScalar where
  text : List Char
  brokeLine : Bool
  cursor : Cursor

/-- The rest of a plain scalar, behind a text and a gap. -/
def plainParts (inFlow : Bool) (indent : Int) (cursor : Cursor) (read gap : List Char)
    (brokeLine : Bool) : PlainScalar :=
  let part := if cursor.isAt '#' then [] else plainPart inFlow cursor.rest
  if part.isEmpty then ⟨read, brokeLine, cursor⟩
  else
    let read := read ++ gap ++ part
    let after := plainGap (cursor.skip part.length)
    match after.text with
    | none => ⟨read, after.brokeLine, after.cursor⟩
    | some gap =>
        if after.cursor.isAt '#' || (!inFlow && decide ((after.cursor.column : Int) < indent)) then
          ⟨read, after.brokeLine, after.cursor⟩
        else if after.cursor.rest.length < cursor.rest.length then
          plainParts inFlow indent after.cursor read gap after.brokeLine
        else ⟨read, after.brokeLine, after.cursor⟩
termination_by cursor.rest.length

/-- The plain scalar that comes next, in a collection whose entries begin in a column. -/
def readPlain (inFlow : Bool) (indent : Int) (cursor : Cursor) : PlainScalar :=
  plainParts inFlow (indent + 1) cursor [] [] false

/-! ## As a block -/

/-- What becomes of the ends of lines at the end of a block. -/
inductive Chomping where
  | clip
  | strip
  | keep
  deriving DecidableEq

/-- The sign for the end of a block, if it comes next. -/
def chomping? (cursor : Cursor) : Option (Chomping × Cursor) :=
  if cursor.isAt '+' then some (.keep, cursor.next)
  else if cursor.isAt '-' then some (.strip, cursor.next)
  else none

/-- The digit for the depth of a block, if one comes next. -/
def depth? (cursor : Cursor) : Except Fault (Option (Nat × Cursor)) :=
  match cursor.peek with
  | some char =>
      if char == '0' then .error .invalid
      else if char.isDigit then .ok (some (char.toNat - 48, cursor.next))
      else .ok none
  | none => .ok none

/-- The signs after the mark of a block. -/
def blockSigns (cursor : Cursor) : Except Fault ((Chomping × Option Nat) × Cursor) := do
  let (signs, after) ← match chomping? cursor with
    | some (chomping, after) => do
        match ← depth? after with
        | some (depth, after) => pure ((chomping, some depth), after)
        | none => pure ((chomping, none), after)
    | none => do
        match ← depth? cursor with
        | some (depth, after) =>
            match chomping? after with
            | some (chomping, after) => pure ((chomping, some depth), after)
            | none => pure ((Chomping.clip, some depth), after)
        | none => pure ((Chomping.clip, none), cursor)
  if endsWord after.peek then pure (signs, after) else throw .invalid

/-- The rest of a line that holds nothing but a comment. -/
def ignoredLine (cursor : Cursor) : Except Fault Cursor :=
  let after := cursor.skipComment
  if endsLine after.peek then .ok after.lineBreak.2 else .error .invalid

/-- The empty lines at the beginning of a block, and the greatest column that their spaces reach. -/
def blockIndentation (cursor : Cursor) (read : List Char) (widest : Nat) :
    (List Char × Nat) × Cursor :=
  let next : List Char × Cursor :=
    if cursor.isAt ' ' then ([], cursor.next) else cursor.lineBreak
  if next.2.rest.length < cursor.rest.length then
    blockIndentation next.2 (read ++ next.1)
      (if next.1.isEmpty then max widest next.2.column else widest)
  else ((read, widest), cursor)
termination_by cursor.rest.length

/-- The place behind the spaces up to a column. -/
def skipIndent (indent : Int) (cursor : Cursor) : Cursor :=
  cursor.skip (((cursor.rest.takeWhile (· == ' ')).take (indent - cursor.column).toNat).length)

/-- The empty lines of a block, each with no more spaces than the block is deep. -/
def blockBreaks (indent : Int) (cursor : Cursor) (read : List Char) : List Char × Cursor :=
  let after := skipIndent indent cursor
  let (written, next) := after.lineBreak
  if written.isEmpty then (read, after)
  else if next.rest.length < cursor.rest.length then blockBreaks indent next (read ++ written)
  else (read, after)
termination_by cursor.rest.length

/-- Whether a blank comes next. -/
def isBlankNext (cursor : Cursor) : Bool :=
  cursor.isAt ' ' || cursor.isAt '\t'

/-- The lines of a block, behind a text and the empty lines after it. -/
def blockLines (folded : Bool) (chomping : Chomping) (indent : Int) (cursor : Cursor)
    (read breaks : List Char) (lastBreak : List Char) : List Char × Cursor :=
  if (cursor.column : Int) = indent ∧ !cursor.rest.isEmpty then
    let (line, atEnd) := cursor.takeWhile fun char => !isBreak char
    let (written, next) := atEnd.lineBreak
    let (empty, after) := blockBreaks indent next []
    let read := read ++ breaks ++ line
    let isInside := decide ((after.column : Int) = indent) && !after.rest.isEmpty
    let joined :=
      if !isInside then []
      else if folded && written == ['\n'] && !isBlankNext cursor && !isBlankNext after then
        (if empty.isEmpty then [' '] else [])
      else written
    if after.rest.length < cursor.rest.length then
      blockLines folded chomping indent after (read ++ joined) empty written
    else (read, after)
  else
    (read ++ (if chomping = .strip then [] else lastBreak) ++
      (if chomping = .keep then breaks else []), cursor)
termination_by cursor.rest.length

/-- The block whose mark comes next, in a collection whose entries begin in a column. -/
def readBlock (folded : Bool) (parent : Int) (cursor : Cursor) : Except Fault (List Char × Cursor) := do
  let ((chomping, depth), after) ← blockSigns cursor.next
  let body ← ignoredLine after
  let least := max (parent + 1) 1
  match depth with
  | none =>
      let ((breaks, widest), first) := blockIndentation body [] 0
      pure (blockLines folded chomping (max least widest) first [] breaks [])
  | some depth =>
      let indent := least + depth - 1
      let (breaks, first) := blockBreaks indent body []
      pure (blockLines folded chomping indent first [] breaks [])

end LogRelay.Yaml
