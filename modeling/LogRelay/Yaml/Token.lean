import LogRelay.Text.Utf8
import LogRelay.Yaml.Scalar

/-!
# Tokens of a document

A document is read as a sequence of tokens. Indentation opens and closes blocks, and becomes tokens of
its own. That a scalar is the key of a mapping is known only once the colon behind it has been read, so
the places at which such a key may have begun are kept until it can begin there no longer, and the
tokens that announce it are put in at that place afterwards.

A key without a question mark stands on one line and takes no more than 1024 characters.
-/

namespace LogRelay.Yaml

/-- A line in front of a document that says how to read it. -/
inductive Directive where
  | version (major : Nat)
  | tag (handle start : String)
  | other
  deriving DecidableEq, Repr

/-- A token of a document. -/
inductive Token where
  | directive (directive : Directive)
  | documentStart
  | documentEnd
  | blockSequenceStart
  | blockMappingStart
  | blockEnd
  | flowSequenceStart
  | flowSequenceEnd
  | flowMappingStart
  | flowMappingEnd
  | blockEntry
  | flowEntry
  | key
  | value
  | reference (name : String)
  | anchor (name : String)
  /-- A tag by its handle, if it has one, and what follows the handle. -/
  | tag (handle : Option String) (suffix : String)
  | scalar (text : Wording) (plain : Bool)
  deriving DecidableEq, Repr

/-- A place at which a key may have begun. -/
structure KeyStart where
  /-- How many tokens come before it. -/
  number : Nat
  /-- Nothing but a key can begin there. -/
  required : Bool
  index : Nat
  line : Nat
  column : Nat

/-- How far a document has been read. -/
structure Lexer where
  cursor : Cursor
  /-- How many flow collections are open. -/
  flow : Nat
  /-- The column in which the entries of the innermost block begin, -1 outside of blocks. -/
  indent : Int
  /-- The columns of the blocks around it, from the inside out. -/
  outer : List Int
  /-- A key may begin here. -/
  allowsKey : Bool
  /-- The places at which keys may have begun, by the number of flow collections around them. -/
  starts : List (Nat × KeyStart)
  tokens : Array Token

namespace Lexer

/-- The lexer before a text. A byte order mark at its beginning is passed over. -/
def start (text : List Char) : Lexer :=
  let cursor := Cursor.start text
  ⟨if cursor.isAt '\uFEFF' then cursor.next else cursor, 0, -1, [], true, [], #[]⟩

/-- Whether the lexer is in a block. -/
def inBlock (lexer : Lexer) : Bool := lexer.flow == 0

/-- Adds a token and moves on. -/
def push (lexer : Lexer) (token : Token) (cursor : Cursor) : Lexer :=
  { lexer with tokens := lexer.tokens.push token, cursor := cursor }

/-- Passes over spaces, comments and ends of lines. After the end of a line in a block a key may
begin. -/
def skipToToken (inBlock : Bool) (cursor : Cursor) (allowsKey : Bool) : Cursor × Bool :=
  let after := cursor.skipComment
  let (written, next) := after.lineBreak
  if written.isEmpty then (after, allowsKey)
  else if next.rest.length < cursor.rest.length then
    skipToToken inBlock next (allowsKey || inBlock)
  else (after, allowsKey)
termination_by cursor.rest.length

/-- Gives up the places at which a key can have begun no longer. -/
def dropStale (lexer : Lexer) : Except Fault Lexer :=
  let isStale (start : KeyStart) : Bool :=
    start.line != lexer.cursor.line || decide (1024 < lexer.cursor.index - start.index)
  if lexer.starts.any fun (_, start) => isStale start && start.required then .error .invalid
  else .ok { lexer with starts := lexer.starts.filter fun (_, start) => !isStale start }

/-- Gives up the place at which a key may have begun among the collections now open. -/
def dropStart (lexer : Lexer) : Except Fault Lexer :=
  if lexer.starts.any fun (flow, start) => flow == lexer.flow && start.required then
    .error .invalid
  else .ok { lexer with starts := lexer.starts.filter fun (flow, _) => flow != lexer.flow }

/-- Notes that a key may begin here, if one may. -/
def saveStart (lexer : Lexer) : Except Fault Lexer := do
  if lexer.allowsKey then
    let kept ← lexer.dropStart
    let cursor := lexer.cursor
    let required := lexer.inBlock && lexer.indent == (cursor.column : Int)
    pure { kept with
      starts := (lexer.flow,
        ⟨lexer.tokens.size, required, cursor.index, cursor.line, cursor.column⟩) :: kept.starts }
  else pure lexer

/-- Closes the blocks whose entries begin behind a column. -/
def closeBlocks (tokens : Array Token) (column indent : Int) : List Int → Array Token × Int × List Int
  | [] => (tokens, indent, [])
  | outer :: others =>
      if column < indent then closeBlocks (tokens.push .blockEnd) column outer others
      else (tokens, indent, outer :: others)

/-- Closes the blocks whose entries begin behind a column, outside of flow collections. -/
def unwind (lexer : Lexer) (column : Int) : Lexer :=
  if lexer.inBlock then
    let (tokens, indent, outer) := closeBlocks lexer.tokens column lexer.indent lexer.outer
    { lexer with tokens := tokens, indent := indent, outer := outer }
  else lexer

/-- Opens a block whose entries begin in a column, if they begin behind those of the block around it,
and puts a token for it at a place among the tokens. -/
def openBlock (lexer : Lexer) (column : Int) (token : Token) (place : Nat) : Lexer :=
  if lexer.indent < column then
    { lexer with
      indent := column
      outer := lexer.indent :: lexer.outer
      tokens := lexer.tokens.insertIdxIfInBounds place token }
  else lexer

/-! ## Directives, anchors and tags -/

/-- Whether a character may stand in the name of an anchor, a handle or a directive. -/
def isNameChar (char : Char) : Bool :=
  char.isAlphanum || char == '-' || char == '_'

/-- Whether a character may stand in a tag. -/
def isTagChar (char : Char) : Bool :=
  char.isAlphanum || "-;/?:@&=+$,_.!~*'()[]".toList.contains char

/-- The bytes that are told by escapes of two digits each. -/
def escapedBytes (cursor : Cursor) (read : List UInt8) : Except Fault (List UInt8 × Cursor) :=
  if cursor.isAt '%' then
    match readHex cursor.next 2 with
    | .error fault => .error fault
    | .ok (code, next) =>
        if next.rest.length < cursor.rest.length then
          escapedBytes next (read ++ [UInt8.ofNat code])
        else .error .invalid
  else .ok (read, cursor)
termination_by cursor.rest.length

/-- The text of a tag that comes next, behind what has been read of it. -/
def tagText (cursor : Cursor) (read : List Char) : Except Fault (String × Cursor) :=
  let (plain, after) := cursor.takeWhile isTagChar
  if after.isAt '%' then
    match escapedBytes after [] with
    | .error fault => .error fault
    | .ok (bytes, next) =>
        match Utf8.decode? bytes with
        | none => .error .invalid
        | some decoded =>
            if next.rest.length < cursor.rest.length then
              tagText next (read ++ plain ++ decoded.toList)
            else .error .invalid
  else
    let read := read ++ plain
    if read.isEmpty then .error .invalid else .ok (String.ofList read, after)
termination_by cursor.rest.length

/-- The handle of a tag that comes next: a name between exclamation marks, or a single mark. -/
def tagHandle (cursor : Cursor) : Except Fault (String × Cursor) :=
  if !cursor.isAt '!' then .error .invalid
  else if cursor.peekAt 1 == some ' ' then .ok ("!", cursor.next)
  else
    let (name, after) := cursor.next.takeWhile isNameChar
    if after.isAt '!' then .ok (String.ofList ('!' :: name ++ ['!']), after.next)
    else .error .invalid

/-- The tag that comes next. -/
def readTag (cursor : Cursor) : Except Fault (Token × Cursor) := do
  let (token, after) ← show Except Fault (Token × Cursor) from
    if cursor.peekAt 1 == some '<' then do
      let (suffix, after) ← tagText (cursor.skip 2) []
      if after.isAt '>' then pure (.tag none suffix, after.next) else throw .invalid
    else if isGap (cursor.peekAt 1) then pure (.tag none "!", cursor.next)
    else do
      let word := cursor.rest.tail.takeWhile fun char => !endsWord (some char)
      let (handle, after) ← if word.contains '!' then tagHandle cursor
        else pure ("!", cursor.next)
      let (suffix, after) ← tagText after []
      pure (.tag (some handle) suffix, after)
  if endsWord after.peek then pure (token, after) else throw .invalid

/-- The name of an anchor that comes next behind its mark. -/
def readName (cursor : Cursor) : Except Fault (String × Cursor) := do
  let (name, after) := cursor.next.takeWhile isNameChar
  if name.isEmpty then throw .invalid
  let ends := match after.peek with
    | none => true
    | some char => isGap (some char) || "?:,]\x7d%@`".toList.contains char
  if ends then pure (String.ofList name, after) else throw .invalid

/-- The number of a version that comes next. -/
def readVersionNumber (cursor : Cursor) : Except Fault (Nat × Cursor) :=
  let (digits, after) := cursor.takeWhile Char.isDigit
  if digits.isEmpty then .error .invalid
  else .ok (Numeral.ofDigits (digits.map fun digit => digit.toNat - 48), after)

/-- The directive that comes next. -/
def readDirective (cursor : Cursor) : Except Fault (Directive × Cursor) := do
  let (name, after) := cursor.next.takeWhile isNameChar
  if name.isEmpty || !endsWord after.peek then throw .invalid
  if name = "YAML".toList then
    let (major, after) ← readVersionNumber after.skipSpaces
    if !after.isAt '.' then throw .invalid
    let (_, after) ← readVersionNumber after.next
    if !endsWord after.peek then throw .invalid
    pure (.version major, ← ignoredLine after)
  else if name = "TAG".toList then
    let (handle, after) ← tagHandle after.skipSpaces
    if !after.isAt ' ' then throw .invalid
    let (start, after) ← tagText after.skipSpaces []
    if !endsWord after.peek then throw .invalid
    pure (.tag handle start, ← ignoredLine after)
  else pure (.other, ← ignoredLine after.skipLine)

/-! ## One token after another -/

/-- Reads a directive or a mark between documents, which close all blocks. -/
def fetchBetween (lexer : Lexer) (token : Token) (cursor : Cursor) : Except Fault Lexer := do
  let lexer ← (lexer.unwind (-1)).dropStart
  pure ({ lexer with allowsKey := false }.push token cursor)

/-- Reads the beginning of a flow collection. -/
def fetchFlowStart (lexer : Lexer) (token : Token) : Except Fault Lexer := do
  let lexer ← lexer.saveStart
  pure ({ lexer with flow := lexer.flow + 1, allowsKey := true }.push token lexer.cursor.next)

/-- Reads the end of a flow collection. -/
def fetchFlowEnd (lexer : Lexer) (token : Token) : Except Fault Lexer := do
  if lexer.flow = 0 then throw .invalid
  let lexer ← lexer.dropStart
  pure ({ lexer with flow := lexer.flow - 1, allowsKey := false }.push token lexer.cursor.next)

/-- Reads the comma between entries of a flow collection. -/
def fetchFlowEntry (lexer : Lexer) : Except Fault Lexer := do
  let lexer ← lexer.dropStart
  pure ({ lexer with allowsKey := true }.push .flowEntry lexer.cursor.next)

/-- Reads the mark of an entry or of a key in a block, which may open the block. -/
def fetchMark (lexer : Lexer) (opening token : Token) (allowsKey : Bool) : Except Fault Lexer := do
  if lexer.inBlock && !lexer.allowsKey then throw .invalid
  let opened := if lexer.inBlock then
      lexer.openBlock lexer.cursor.column opening lexer.tokens.size
    else lexer
  let lexer ← opened.dropStart
  pure ({ lexer with allowsKey := allowsKey }.push token lexer.cursor.next)

/-- Reads the colon between a key and its value. If a key may have begun before, it has. -/
def fetchValue (lexer : Lexer) : Except Fault Lexer := do
  match lexer.starts.lookup lexer.flow with
  | some start =>
      let keyed := { lexer with
        starts := lexer.starts.filter fun (flow, _) => flow != lexer.flow
        tokens := lexer.tokens.insertIdxIfInBounds start.number .key
        allowsKey := false }
      let opened := if lexer.inBlock then
          keyed.openBlock start.column .blockMappingStart start.number
        else keyed
      pure (opened.push .value lexer.cursor.next)
  | none => lexer.fetchMark .blockMappingStart .value lexer.inBlock

/-- Reads what may begin a key on its line: an alias, an anchor, a tag or a scalar. -/
def fetchNode (lexer : Lexer) (read : Cursor → Except Fault (Token × Cursor)) :
    Except Fault Lexer := do
  let lexer ← lexer.saveStart
  let (token, after) ← read lexer.cursor
  pure ({ lexer with allowsKey := false }.push token after)

/-- Reads a plain scalar. If it ends at the end of a line, a key may begin after it. -/
def fetchPlain (lexer : Lexer) : Except Fault Lexer := do
  let lexer ← lexer.saveStart
  let scalar := readPlain (!lexer.inBlock) lexer.indent lexer.cursor
  pure ({ lexer with allowsKey := scalar.brokeLine }.push
    (.scalar (scalar.text.map .char) true) scalar.cursor)

/-- Reads a block scalar, after which a key may begin. -/
def fetchBlock (lexer : Lexer) (folded : Bool) : Except Fault Lexer := do
  let lexer ← lexer.dropStart
  let (text, after) ← readBlock folded lexer.indent lexer.cursor
  pure ({ lexer with allowsKey := true }.push (.scalar (text.map .char) false) after)

/-- Whether a plain scalar can begin here. -/
def startsPlain (lexer : Lexer) (char : Char) : Bool :=
  let isMark := isGap (some char) || "-?:,[]\x7b\x7d#&*!|>'\"%@`".toList.contains char
  !isMark || (!isGap (lexer.cursor.peekAt 1) &&
    (char == '-' || (lexer.inBlock && (char == '?' || char == ':'))))

/-- Reads the token that begins with a character. -/
def fetch (lexer : Lexer) (char : Char) : Except Fault Lexer :=
  let cursor := lexer.cursor
  let atLineStart := cursor.column == 0
  let beforeGap := isGap (cursor.peekAt 1)
  let quoted (double : Bool) (cursor : Cursor) : Except Fault (Token × Cursor) := do
    let (text, after) ← readQuoted double cursor
    pure (.scalar text false, after)
  if char == '%' && atLineStart then do
    let (directive, after) ← readDirective cursor
    lexer.fetchBetween (.directive directive) after
  else if atLineStart && cursor.isMarker '-' then
    lexer.fetchBetween .documentStart (cursor.skip 3)
  else if atLineStart && cursor.isMarker '.' then
    lexer.fetchBetween .documentEnd (cursor.skip 3)
  else if char == '[' then lexer.fetchFlowStart .flowSequenceStart
  else if char == '\x7b' then lexer.fetchFlowStart .flowMappingStart
  else if char == ']' then lexer.fetchFlowEnd .flowSequenceEnd
  else if char == '\x7d' then lexer.fetchFlowEnd .flowMappingEnd
  else if char == ',' then lexer.fetchFlowEntry
  else if char == '-' && beforeGap then lexer.fetchMark .blockSequenceStart .blockEntry true
  else if char == '?' && (!lexer.inBlock || beforeGap) then
    lexer.fetchMark .blockMappingStart .key lexer.inBlock
  else if char == ':' && (!lexer.inBlock || beforeGap) then lexer.fetchValue
  else if char == '*' then
    lexer.fetchNode fun cursor => do
      let (name, after) ← readName cursor
      pure (.reference name, after)
  else if char == '&' then
    lexer.fetchNode fun cursor => do
      let (name, after) ← readName cursor
      pure (.anchor name, after)
  else if char == '!' then lexer.fetchNode readTag
  else if char == '|' && lexer.inBlock then lexer.fetchBlock false
  else if char == '>' && lexer.inBlock then lexer.fetchBlock true
  else if char == '\'' then lexer.fetchNode (quoted false)
  else if char == '"' then lexer.fetchNode (quoted true)
  else if lexer.startsPlain char then lexer.fetchPlain
  else .error .invalid

/-- Goes to the next token, and closes the blocks that end before it. -/
def approach (lexer : Lexer) : Except Fault Lexer := do
  let (cursor, allowsKey) := skipToToken lexer.inBlock lexer.cursor lexer.allowsKey
  let lexer ← ({ lexer with cursor := cursor, allowsKey := allowsKey } : Lexer).dropStale
  pure (lexer.unwind cursor.column)

/-- Ends the text: all blocks are closed. -/
def finish (lexer : Lexer) : Except Fault Lexer :=
  (lexer.unwind (-1)).dropStart

/-- All tokens of a text, and the fault that ends them if there is one. -/
def run (lexer : Lexer) : Array Token × Option Fault :=
  match lexer.approach with
  | .error fault => (lexer.tokens, some fault)
  | .ok here =>
      match here.cursor.peek with
      | none =>
          match here.finish with
          | .ok done => (done.tokens, none)
          | .error fault => (here.tokens, some fault)
      | some char =>
          match here.fetch char with
          | .error fault => (here.tokens, some fault)
          | .ok next =>
              if next.cursor.rest.length < lexer.cursor.rest.length then run next
              else (next.tokens, some .invalid)
termination_by lexer.cursor.rest.length

end Lexer

end LogRelay.Yaml
