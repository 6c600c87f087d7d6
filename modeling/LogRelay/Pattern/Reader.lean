import LogRelay.Number.Numeral
import LogRelay.Pattern.Tree
import LogRelay.Text.Identifier

/-!
# Reading patterns

A pattern is read token by token, where a backslash and the character after it are one token. What is
open at a point of the reading is kept as a stack of levels, one for each group that is open, so a
step deals with one token and those that belong to it.

The tokens are read one ahead. A backslash at the very end is found as soon as it is the next token,
before the fault of a number that stands just before it.
-/

namespace LogRelay.Pattern

/-- A character, or a character behind a backslash, or a backslash behind which the text ends. -/
inductive Token where
  | plain (char : Char)
  | escaped (char : Char)
  | dangling
  deriving DecidableEq, Repr

namespace Token

/-- The tokens of a text. -/
def scan : List Char → List Token
  | [] => []
  | ['\\'] => [dangling]
  | '\\' :: char :: chars => escaped char :: scan chars
  | char :: chars => plain char :: scan chars

/-- The characters of a token. -/
def chars : Token → List Char
  | plain char => [char]
  | escaped char => ['\\', char]
  | dangling => ['\\']

/-- The character of a plain token of a class. -/
def plainIn? (isMember : Char → Bool) : Token → Option Char
  | plain char => if isMember char then some char else none
  | _ => none

end Token

/-- Finds the backslash that ends a text. -/
def lookAhead (tokens : List Token) : Except Fault (List Token) :=
  match tokens with
  | .dangling :: _ => .error .invalid
  | _ => .ok tokens

/-- The plain characters of a class at the beginning, at most so many, and the tokens after them. -/
def takePlain (isMember : Char → Bool) : (most : Nat) → List Token → List Char × List Token
  | 0, tokens => ([], tokens)
  | _ + 1, [] => ([], [])
  | most + 1, token :: tokens =>
      match token.plainIn? isMember with
      | some char =>
          let (chars, rest) := takePlain isMember most tokens
          (char :: chars, rest)
      | none => ([], token :: tokens)

/-- The characters up to a plain terminator, which must not come first, and the tokens after it. -/
def takeUntil (terminator : Char) (read : List Char) : List Token → Except Fault (List Char × List Token)
  | [] => .error .invalid
  | token :: tokens =>
      if token = .plain terminator then
        if read.isEmpty then .error .invalid else .ok (read.reverse, tokens)
      else takeUntil terminator (token.chars.reverse ++ read) tokens

/-- Whether a character is an octal digit. -/
def isOctal (char : Char) : Bool := '0' ≤ char && char ≤ '7'

/-- Whether a character is a hexadecimal digit. -/
def isHexadecimal (char : Char) : Bool :=
  char.isDigit || ('a' ≤ char && char ≤ 'f') || ('A' ≤ char && char ≤ 'F')

/-- The value of a hexadecimal digit. -/
def hexValue (char : Char) : Nat :=
  if char.isDigit then char.toNat - 48 else char.toLower.toNat - 87

/-- The number that digits stand for in a base. -/
def ofBase (base : Nat) (digits : List Char) : Nat :=
  digits.foldl (fun number digit => number * base + hexValue digit) 0

/-- The code of a character that exactly so many hexadecimal digits tell. -/
def readHex (places : Nat) (tokens : List Token) : Except Fault (Nat × List Token) := do
  let (digits, rest) := takePlain isHexadecimal places tokens
  if digits.length ≠ places then throw .invalid
  let code := ofBase 16 digits
  let rest ← lookAhead rest
  if 0x80000000 ≤ code then throw .tooLarge
  if 0x10FFFF < code then throw .invalid
  pure (code, rest)

/-- The control character that a letter behind a backslash stands for. -/
def controlCode? : Char → Option Nat
  | 'a' => some 7
  | 'f' => some 12
  | 'n' => some 10
  | 'r' => some 13
  | 't' => some 9
  | 'v' => some 11
  | '\\' => some 92
  | _ => none

/-- The class of characters that a letter behind a backslash stands for. -/
def category? : Char → Option SetItem
  | 'd' => some (.category .digit false)
  | 'D' => some (.category .digit true)
  | 's' => some (.category .blank false)
  | 'S' => some (.category .blank true)
  | 'w' => some (.category .word false)
  | 'W' => some (.category .word true)
  | _ => none

/-- The place that a letter behind a backslash stands for. -/
def place? : Char → Option Place
  | 'A' => some .textStart
  | 'Z' => some .textEnd
  | 'b' => some .boundary
  | 'B' => some .noBoundary
  | _ => none

/-- The code of a character that is told by digits after a letter. -/
def numberedCode? (letter : Char) (tokens : List Token) :
    Option (Except Fault (Nat × List Token)) :=
  match letter with
  | 'x' => some (readHex 2 tokens)
  | 'u' => some (readHex 4 tokens)
  | 'U' => some (readHex 8 tokens)
  | _ => none

/-- What a backslash and a character stand for inside a set. -/
def readSetEscape (letter : Char) (tokens : List Token) : Except Fault (SetItem × List Token) :=
  if letter = 'b' then .ok (.code 8, tokens)
  else match controlCode? letter with
    | some code => .ok (.code code, tokens)
    | none => match category? letter with
      | some category => .ok (category, tokens)
      | none => match numberedCode? letter tokens with
        | some result => result.map fun (code, rest) => (.code code, rest)
        | none =>
            if isOctal letter then
              let (digits, rest) := takePlain isOctal 2 tokens
              let code := ofBase 8 (letter :: digits)
              if 0o377 < code then .error .invalid else .ok (.code code, rest)
            else if letter.isAlphanum then .error .invalid
            else .ok (.code letter.toNat, tokens)

/-- One member of a set, as a token and those that belong to it tell. -/
def readSetItem (token : Token) (tokens : List Token) : Except Fault (SetItem × List Token) :=
  match token with
  | .plain char => .ok (.code char.toNat, tokens)
  | .escaped letter => readSetEscape letter tokens
  | .dangling => .error .invalid

/-- Reads the members of a set up to its closing bracket, which does not close a set that has no
member. Every round takes at least one token. -/
def readSet (items : List SetItem) : (rounds : Nat) → List Token →
    Except Fault (List SetItem × List Token)
  | 0, _ => .error .invalid
  | _ + 1, [] => .error .invalid
  | rounds + 1, token :: tokens =>
      if token = .plain ']' ∧ !items.isEmpty then .ok (items.reverse, tokens)
      else do
        let (low, rest) ← readSetItem token tokens
        match rest with
        | .plain '-' :: upper :: rest =>
            if upper = .plain ']' then .ok ((.code '-'.toNat :: low :: items).reverse, rest)
            else do
              let (high, rest) ← readSetItem upper rest
              match low, high with
              | .code low, .code high =>
                  if high < low then .error .invalid
                  else readSet (.range low high :: items) rounds rest
              | _, _ => .error .invalid
        | _ => readSet (low :: items) rounds rest

/-- What a level closes to. -/
inductive Opening where
  | pattern
  | capturing (number : Nat)
  | plain (on off : Switches)
  | atomic
  /-- A look, with the first group that may not be referred to outside it. -/
  | look (behind negated : Bool) (barrier : Option Nat)
  | conditional (group : Nat)
  deriving Repr

/-- A group that is open, or the pattern itself: the parts of the branch being read and the branches
before it, the last of them first. -/
structure Level where
  opening : Opening
  verbose : Bool
  items : List Tree
  branches : List Tree
  deriving Repr

/-- What has been read of a pattern. -/
structure Progress where
  tokens : List Token
  level : Level
  outer : List Level
  switches : Switches
  /-- The number of the next group that captures. -/
  nextGroup : Nat
  names : List (List Char × Nat)
  /-- The widths of the groups that are closed. -/
  widths : List (Nat × Width)
  /-- Inside a look behind, the first group that may not be referred to. -/
  barrier : Option Nat
  /-- The groups whose number a condition has named. -/
  asked : List Nat

namespace Progress

/-- The beginning of the reading. -/
def start (tokens : List Token) : Progress :=
  ⟨tokens, ⟨.pattern, false, [], []⟩, [], {}, 1, [], [], none, []⟩

/-- Goes on at other tokens. -/
def goOn (progress : Progress) (tokens : List Token) : Progress :=
  { progress with tokens := tokens }

/-- Adds a part to the branch being read. -/
def push (progress : Progress) (item : Tree) (tokens : List Token) : Progress :=
  { progress with
    tokens := tokens
    level := { progress.level with items := item :: progress.level.items } }

/-- Opens a level inside the present one. -/
def descend (progress : Progress) (opening : Opening) (verbose : Bool) (tokens : List Token) :
    Progress :=
  { progress with
    tokens := tokens
    level := ⟨opening, verbose, [], []⟩
    outer := progress.level :: progress.outer }

/-- The width of a group, zero for one that is not closed. -/
def widthOf (progress : Progress) (number : Nat) : Width :=
  (progress.widths.lookup number).getD (.exactly 0)

/-- Whether a group is closed. -/
def isClosed (progress : Progress) (number : Nat) : Bool :=
  (progress.widths.lookup number).isSome

/-- Inside a look behind only groups that were closed before it may be referred to. -/
def checkBarrier (progress : Progress) (number : Nat) : Except Fault Unit :=
  match progress.barrier with
  | none => .ok ()
  | some first =>
      if progress.isClosed number && number < first then .ok () else .error .invalid

/-- A reference to a group, which must be closed. -/
def refer (progress : Progress) (number : Nat) (tokens : List Token) : Except Fault Progress := do
  if !progress.isClosed number then throw .invalid
  progress.checkBarrier number
  pure (progress.push (.backreference number) tokens)

/-- Digits behind a backslash: an octal code of three digits, or else the number of a group with one
or two digits. -/
def readDigits (progress : Progress) (first : Char) (tokens : List Token) :
    Except Fault Progress :=
  let literal (code : Nat) (rest : List Token) : Progress :=
    progress.push (.chars ⟨false, [.code code]⟩) rest
  if first = '0' then
    let (digits, rest) := takePlain isOctal 2 tokens
    .ok (literal (ofBase 8 digits) rest)
  else
    match takePlain Char.isDigit 1 tokens with
    | ([second], rest) =>
        match isOctal first && isOctal second, takePlain isOctal 1 rest with
        | true, ([third], rest) =>
            let code := ofBase 8 [first, second, third]
            if 0o377 < code then .error .invalid else .ok (literal code rest)
        | _, _ => progress.refer (ofBase 10 [first, second]) rest
    | _ => progress.refer (ofBase 10 [first]) tokens

/-- What a backslash and a character stand for outside a set. -/
def readEscape (progress : Progress) (letter : Char) (tokens : List Token) :
    Except Fault Progress :=
  let set (item : SetItem) (rest : List Token) : Progress :=
    progress.push (.chars ⟨false, [item]⟩) rest
  match place? letter with
  | some place => .ok (progress.push (.place place) tokens)
  | none => match category? letter with
    | some category => .ok (set category tokens)
    | none => match controlCode? letter with
      | some code => .ok (set (.code code) tokens)
      | none => match numberedCode? letter tokens with
        | some result => result.map fun (code, rest) => set (.code code) rest
        | none =>
            if letter.isDigit then progress.readDigits letter tokens
            else if letter.isAlpha then .error .invalid
            else .ok (set (.code letter.toNat) tokens)

/-- A repetition count. -/
def readCount (digits : List Char) : Except Fault Nat :=
  if Numeral.digitLimit < digits.length then .error .tooLong
  else
    let count := ofBase 10 digits
    if 0xFFFFFFFF ≤ count then .error .tooLarge else .ok count

/-- The bounds between braces, if the tokens after the opening brace are such bounds. -/
def readBounds (tokens : List Token) : Except Fault (Option (Nat × Option Nat × List Token)) := do
  if tokens.head? = some (.plain '}') then return none
  let (low, rest) := takePlain Char.isDigit tokens.length tokens
  let (high, rest) := match rest with
    | .plain ',' :: rest => takePlain Char.isDigit rest.length rest
    | _ => (low, rest)
  match rest with
  | .plain '}' :: rest =>
      let rest ← lookAhead rest
      let least ← if low.isEmpty then pure 0 else readCount low
      let most ← if high.isEmpty then pure none else (readCount high).map some
      match most with
      | some most => if most < least then throw .invalid
      | none => pure ()
      pure (some (least, most, rest))
  | _ => pure none

/-- Repeats the last part of the branch, which must be there and be neither a place nor a
repetition. -/
def repeatLast (progress : Progress) (least : Nat) (most : Option Nat) (tokens : List Token) :
    Except Fault Progress :=
  match progress.level.items with
  | [] => .error .invalid
  | item :: items =>
      if item.isPlace || item.isRepetition then .error .invalid
      else
        let (greed, rest) := match tokens with
          | .plain '?' :: rest => (Greed.reluctant, rest)
          | .plain '+' :: rest => (Greed.possessive, rest)
          | _ => (Greed.greedy, tokens)
        .ok { progress with
          tokens := rest
          level := { progress.level with
            items := .repetition least most greed item :: items } }

/-- The switch of a letter. -/
def switch? : Char → Option Switches
  | 'i' => some { ignoreCase := true }
  | 'm' => some { multiline := true }
  | 's' => some { dotAll := true }
  | 'x' => some { verbose := true }
  | 'a' => some { ascii := true }
  | 'u' => some { unicode := true }
  | 't' => some { template := true }
  | _ => none

/-- The letters of switches to turn on. ASCII and Unicode exclude each other. -/
def readOn (on : Switches) : List Token → Except Fault (Switches × List Token)
  | .plain char :: tokens =>
      match switch? char with
      | some switch =>
          let on := on.union switch
          if on.ascii && on.unicode then .error .invalid else readOn on tokens
      | none => .ok (on, .plain char :: tokens)
  | _ => .error .invalid

/-- The letters of switches to turn off, up to a colon. The alphabet cannot be turned off. -/
def readOff (off : Switches) : List Token → Except Fault (Switches × List Token)
  | .plain char :: tokens =>
      match switch? char with
      | some switch =>
          if switch.ascii || switch.unicode then .error .invalid
          else readOff (off.union switch) tokens
      | none => if char = ':' ∧ off ≠ {} then .ok (off, tokens) else .error .invalid
  | _ => .error .invalid

/-- Switches after the beginning of a group. Those that hold for the whole pattern must come before
anything else. -/
def readSwitches (progress : Progress) (tokens : List Token) : Except Fault Progress := do
  let (on, rest) ← readOn {} tokens
  match rest with
  | .plain ')' :: rest =>
      if on = {} then throw .invalid
      let isFirst := progress.outer.isEmpty && progress.level.branches.isEmpty &&
        progress.level.items.isEmpty
      if !isFirst then throw .invalid
      let switches := progress.switches.union on
      pure { progress with
        tokens := rest
        switches := switches
        level := { progress.level with verbose := switches.verbose } }
  | .plain ':' :: rest =>
      if on = {} ∨ on.template then throw .invalid
      pure (progress.descend (.plain on {}) (progress.level.verbose || on.verbose) rest)
  | .plain '-' :: rest =>
      if on.template then throw .invalid
      let (off, rest) ← readOff {} rest
      if off.template || on.meets off then throw .invalid
      pure (progress.descend (.plain on off)
        ((progress.level.verbose || on.verbose) && !off.verbose) rest)
  | _ => throw .invalid

/-- Opens a group that captures. -/
def openCapturing (progress : Progress) (tokens : List Token) : Progress :=
  { progress.descend (.capturing progress.nextGroup) progress.level.verbose tokens with
    nextGroup := progress.nextGroup + 1 }

/-- Opens a group that captures under a name, which must be new. -/
def openNamed (progress : Progress) (tokens : List Token) : Except Fault Progress := do
  let (name, rest) ← takeUntil '>' [] tokens
  if !Text.isIdentifier name || (progress.names.lookup name).isSome then throw .invalid
  pure { progress.openCapturing rest with names := (name, progress.nextGroup) :: progress.names }

/-- A reference to a group by its name. -/
def referNamed (progress : Progress) (tokens : List Token) : Except Fault Progress := do
  let (name, rest) ← takeUntil ')' [] tokens
  match progress.names.lookup name with
  | some number => progress.refer number rest
  | none => throw .invalid

/-- Opens a look ahead or behind. -/
def openLook (progress : Progress) (behind negated : Bool) (tokens : List Token) : Progress :=
  let opened := progress.descend (.look behind negated progress.barrier) progress.level.verbose tokens
  if behind && progress.barrier.isNone then { opened with barrier := some progress.nextGroup }
  else opened

/-- Opens a condition on a group, which is told by its name or its number. -/
def openConditional (progress : Progress) (tokens : List Token) : Except Fault Progress := do
  let (name, rest) ← takeUntil ')' [] tokens
  let opened (number : Nat) : Progress :=
    progress.descend (.conditional number) progress.level.verbose rest
  if Text.isIdentifier name then
    match progress.names.lookup name with
    | some number =>
        progress.checkBarrier number
        pure (opened number)
    | none => throw .invalid
  else
    match Numeral.readInt? (String.ofList name) with
    | some number =>
        if number ≤ 0 then throw .invalid
        progress.checkBarrier number.toNat
        pure { opened number.toNat with asked := number.toNat :: progress.asked }
    | none => throw .invalid

/-- Drops the tokens of a comment up to its closing parenthesis. -/
def skipComment : List Token → Except Fault (List Token)
  | [] => .error .invalid
  | .dangling :: _ => .error .invalid
  | token :: tokens => if token = .plain ')' then .ok tokens else skipComment tokens

/-- What an opening parenthesis begins. -/
def readOpening (progress : Progress) (tokens : List Token) : Except Fault Progress :=
  match tokens with
  | .plain '?' :: rest =>
      match rest with
      | .plain 'P' :: .plain '<' :: rest => progress.openNamed rest
      | .plain 'P' :: .plain '=' :: rest => progress.referNamed rest
      | .plain ':' :: rest => .ok (progress.descend (.plain {} {}) progress.level.verbose rest)
      | .plain '#' :: rest => (skipComment rest).map progress.goOn
      | .plain '=' :: rest => .ok (progress.openLook false false rest)
      | .plain '!' :: rest => .ok (progress.openLook false true rest)
      | .plain '<' :: .plain '=' :: rest => .ok (progress.openLook true false rest)
      | .plain '<' :: .plain '!' :: rest => .ok (progress.openLook true true rest)
      | .plain '(' :: rest => progress.openConditional rest
      | .plain '>' :: rest => .ok (progress.descend .atomic progress.level.verbose rest)
      | _ => progress.readSwitches rest
  | _ => .ok (progress.openCapturing tokens)

/-- The tree of a level, with its branches as alternatives. -/
def levelTree (level : Level) : Tree :=
  .choices (.ofReversed level.items) level.branches

/-- The part that a closed level makes. -/
def closedItem (level : Level) : Tree :=
  match level.opening with
  | .pattern => levelTree level
  | .capturing number => .group (some number) {} {} (levelTree level)
  | .plain on off => .group none on off (levelTree level)
  | .atomic => .atomic (levelTree level)
  | .look behind negated _ => .look behind negated (levelTree level)
  | .conditional number =>
      match level.branches with
      | yes :: _ => .conditional number yes (.ofReversed level.items)
      | [] => .conditional number (.ofReversed level.items) .empty

/-- Closes the innermost group. -/
def close (progress : Progress) (tokens : List Token) : Except Fault Progress :=
  match progress.outer with
  | [] => .error (if progress.switches.ascii && progress.switches.unicode then .clashing else .invalid)
  | parent :: outer =>
      let item := closedItem progress.level
      let closed : Progress := { progress with
        tokens := tokens
        level := { parent with items := item :: parent.items }
        outer := outer }
      match progress.level.opening with
      | .capturing number =>
          .ok { closed with widths := (number, item.width progress.widthOf) :: progress.widths }
      | .look true _ barrier => .ok { closed with barrier := barrier }
      | _ => .ok closed

/-- Begins the next branch. A condition has at most two. -/
def nextBranch (progress : Progress) (tokens : List Token) : Except Fault Progress :=
  let level := progress.level
  let next : Progress := { progress with
    tokens := tokens
    level := { level with items := [], branches := .ofReversed level.items :: level.branches } }
  match level.opening with
  | .conditional _ => if level.branches.isEmpty then .ok next else .error .invalid
  | _ => .ok next

/-- Whether a verbose pattern passes over a character. -/
def isPassedOver (char : Char) : Bool := Text.isPlainBlank char

/-- Drops the tokens of a comment of a verbose pattern up to the end of its line. -/
def skipLine : List Token → Except Fault (List Token)
  | [] => .ok []
  | .dangling :: _ => .error .invalid
  | token :: tokens => if token = .plain '\n' then .ok tokens else skipLine tokens

/-- A character that stands for itself. -/
def pushChar (progress : Progress) (char : Char) (tokens : List Token) : Progress :=
  progress.push (.chars (.single char)) tokens

/-- What a plain character begins. -/
def readPlain (progress : Progress) (char : Char) (tokens : List Token) : Except Fault Progress :=
  match char with
  | '|' => progress.nextBranch tokens
  | ')' => progress.close tokens
  | '(' => progress.readOpening tokens
  | '.' => .ok (progress.push .any tokens)
  | '^' => .ok (progress.push (.place .lineStart) tokens)
  | '$' => .ok (progress.push (.place .lineEnd) tokens)
  | '?' => progress.repeatLast 0 (some 1) tokens
  | '*' => progress.repeatLast 0 none tokens
  | '+' => progress.repeatLast 1 none tokens
  | '{' => do
      match ← readBounds tokens with
      | some (least, most, rest) => progress.repeatLast least most rest
      | none => pure (progress.pushChar '{' tokens)
  | '[' => do
      let (negated, rest) := match tokens with
        | .plain '^' :: rest => (true, rest)
        | _ => (false, tokens)
      let (items, rest) ← readSet [] rest.length rest
      pure (progress.push (.chars ⟨negated, items⟩) rest)
  | char => .ok (progress.pushChar char tokens)

/-- Reads one token and those that belong to it. -/
def step (progress : Progress) (token : Token) (tokens : List Token) : Except Fault Progress := do
  let next ← match token with
    | .dangling => throw .invalid
    | .escaped letter => progress.readEscape letter tokens
    | .plain char =>
        if progress.level.verbose && isPassedOver char then pure (progress.goOn tokens)
        else if progress.level.verbose && char == '#' then (skipLine tokens).map progress.goOn
        else progress.readPlain char tokens
  let _ ← lookAhead next.tokens
  pure next

/-- Reads all tokens. Every round takes at least one. -/
def readAll : (rounds : Nat) → Progress → Except Fault Progress
  | 0, progress => .ok progress
  | rounds + 1, progress =>
      match progress.tokens with
      | [] => .ok progress
      | token :: tokens => do
          let next ← progress.step token tokens
          readAll rounds next

/-- The end of the reading: no group is open, the switches agree, and the groups that conditions have
named by number are there. -/
def finish (progress : Progress) : Except Fault Progress := do
  if !progress.outer.isEmpty then throw .invalid
  if progress.switches.ascii && progress.switches.unicode then throw .clashing
  if progress.asked.any fun number => progress.nextGroup ≤ number then throw .invalid
  pure progress

/-- The tree of all that has been read. -/
def tree (progress : Progress) : Tree :=
  levelTree progress.level

end Progress

/-- Reads the text of a pattern. -/
def read (text : String) : Except Fault Progress := do
  let tokens := Token.scan text.toList
  let tokens ← lookAhead tokens
  let progress ← Progress.readAll tokens.length (.start tokens)
  progress.finish

end LogRelay.Pattern
