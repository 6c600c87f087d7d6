import LogRelay.Yaml.Tag
import LogRelay.Yaml.Token

/-!
# The nodes of a document

The tokens of a document make a tree of nodes. A node may have an anchor, and a reference to the anchor
stands for the same node again. A text holds one document at most.
-/

namespace LogRelay.Yaml

/-- A node of a document. -/
inductive Node where
  | scalar (tag : Tag) (text : Wording)
  | sequence (tag : Tag) (items : List Node)
  | mapping (tag : Tag) (entries : List (Node × Node))
  /-- A reference to a collection from within it. -/
  | again (isMapping : Bool)

/-- What an anchor stands for. -/
inductive Anchored where
  | node (node : Node)
  /-- A collection that has not been read to its end. -/
  | unfinished (isMapping : Bool)

/-- How far the tokens of a document have been read. -/
structure Composer where
  tokens : List Token
  /-- The fault that ends the tokens. -/
  fault : Option Fault
  /-- The handles of tags and what they stand for. -/
  handles : List (String × String)
  anchors : List (String × Anchored)

namespace Composer

/-- The next token, none at the end of the text. -/
def peek (composer : Composer) : Except Fault (Option Token) :=
  match composer.tokens, composer.fault with
  | token :: _, _ => .ok (some token)
  | [], some fault => .error fault
  | [], none => .ok none

/-- Whether the next token is one of some. -/
def isNext (composer : Composer) (wanted : List Token) : Except Fault Bool := do
  match ← composer.peek with
  | some token => pure (wanted.contains token)
  | none => pure false

/-- The composer behind the next token. -/
def drop (composer : Composer) : Composer :=
  { composer with tokens := composer.tokens.tail }

/-- Lets an anchor stand for something. -/
def bind (composer : Composer) (anchor : Option String) (anchored : Anchored) : Composer :=
  match anchor with
  | some name => { composer with anchors := (name, anchored) :: composer.anchors }
  | none => composer

/-- The node of nothing. -/
def emptyNode : Node := .scalar .null ""

/-- What stands in front of a node. -/
structure Properties where
  anchor : Option String
  /-- The name of the tag. An exclamation mark by itself asks for the tag of the form. -/
  tag : Option String

/-- The name of a tag. -/
def tagName (composer : Composer) (handle : Option String) (suffix : String) :
    Except Fault String :=
  match handle with
  | none => .ok suffix
  | some handle =>
      match composer.handles.lookup handle with
      | some start => .ok (start ++ suffix)
      | none => .error .invalid

/-- The anchor that comes next, if one does. -/
def takeAnchor (composer : Composer) : Except Fault (Option String × Composer) := do
  match ← composer.peek with
  | some (.anchor name) => pure (some name, composer.drop)
  | _ => pure (none, composer)

/-- The tag that comes next, if one does. -/
def takeTag (composer : Composer) : Except Fault (Option (Option String × String) × Composer) := do
  match ← composer.peek with
  | some (.tag handle suffix) => pure (some (handle, suffix), composer.drop)
  | _ => pure (none, composer)

/-- What stands in front of a node: an anchor and a tag in any order. An anchor has one place only. -/
def takeProperties (composer : Composer) : Except Fault (Properties × Composer) := do
  let (first, composer) ← composer.takeAnchor
  let (tag, composer) ← composer.takeTag
  let (anchor, composer) ← match first, tag with
    | none, some _ => composer.takeAnchor
    | first, _ => pure (first, composer)
  let name ← match tag with
    | some (handle, suffix) => do pure (some (← composer.tagName handle suffix))
    | none => pure none
  pure (⟨anchor, name⟩, composer)

/-- Whether the tag of a node is left to its form. -/
def Properties.isOpen (properties : Properties) : Bool :=
  properties.tag.all (· == "!")

/-- The tag of a collection. -/
def Properties.tagOr (properties : Properties) (default : Tag) : Tag :=
  match properties.tag with
  | some name => if name = "!" then default else Tag.ofName name
  | none => default

/-- The node of a scalar. -/
def Properties.scalar (properties : Properties) (text : Wording) (plain : Bool) : Node :=
  match properties.tag with
  | some name => .scalar (if name = "!" then Tag.ofPlain text.shown else Tag.ofName name) text
  | none => .scalar (if plain then Tag.ofPlain text.shown else .text) text

/-- Refuses an anchor that stands for something already. -/
def checkAnchor (composer : Composer) (anchor : Option String) : Except Fault Unit :=
  match anchor with
  | some name => if (composer.anchors.lookup name).isSome then .error .invalid else .ok ()
  | none => .ok ()

mutual

/-- Composes the node that comes next. Blocks can begin only in blocks, and a sequence without an
indentation of its own only in a mapping. -/
def node (fuel : Nat) (composer : Composer) (block indentless : Bool) : Except Fault (Node × Composer) := do
  match fuel with
  | 0 => throw .invalid
  | fuel + 1 =>
      match ← composer.peek with
      | some (.reference name) =>
          match composer.anchors.lookup name with
          | some (.node node) => pure (node, composer.drop)
          | some (.unfinished isMapping) => pure (.again isMapping, composer.drop)
          | none => throw .invalid
      | _ =>
          let (properties, composer) ← composer.takeProperties
          let next ← composer.peek
          let collection (isMapping : Bool)
              (read : Composer → Except Fault (Node × Composer)) : Except Fault (Node × Composer) := do
            composer.checkAnchor properties.anchor
            let (node, composer) ← read (composer.bind properties.anchor (.unfinished isMapping))
            pure (node, composer.bind properties.anchor (.node node))
          let leaf (node : Node) (composer : Composer) : Except Fault (Node × Composer) := do
            composer.checkAnchor properties.anchor
            pure (node, composer.bind properties.anchor (.node node))
          let sequence (read : Composer → Except Fault (List Node × Composer)) :
              Except Fault (Node × Composer) :=
            collection false fun composer => do
              let (items, composer) ← read composer
              pure (.sequence (properties.tagOr .list) items, composer)
          let mapping (read : Composer → Except Fault (List (Node × Node) × Composer)) :
              Except Fault (Node × Composer) :=
            collection true fun composer => do
              let (entries, composer) ← read composer
              pure (.mapping (properties.tagOr .mapping) entries, composer)
          match next with
          | some .blockEntry =>
              if indentless then sequence (indentlessItems fuel)
              else if properties.anchor.isSome || properties.tag.isSome then
                leaf (properties.scalar "" properties.isOpen) composer
              else throw .invalid
          | some (.scalar text plain) => leaf (properties.scalar text plain) composer.drop
          | some .flowSequenceStart =>
              sequence fun composer => flowItems fuel composer.drop true
          | some .flowMappingStart =>
              mapping fun composer => flowEntries fuel composer.drop true
          | some .blockSequenceStart =>
              if block then sequence fun composer => blockItems fuel composer.drop
              else if properties.anchor.isSome || properties.tag.isSome then
                leaf (properties.scalar "" properties.isOpen) composer
              else throw .invalid
          | some .blockMappingStart =>
              if block then mapping fun composer => blockEntries fuel composer.drop
              else if properties.anchor.isSome || properties.tag.isSome then
                leaf (properties.scalar "" properties.isOpen) composer
              else throw .invalid
          | _ =>
              if properties.anchor.isSome || properties.tag.isSome then
                leaf (properties.scalar "" properties.isOpen) composer
              else throw .invalid

/-- Composes a node, or nothing before one of some tokens. -/
def nodeUnless (fuel : Nat) (composer : Composer) (ends : List Token) (block indentless : Bool) :
    Except Fault (Node × Composer) := do
  match fuel with
  | 0 => throw .invalid
  | fuel + 1 =>
      if ← composer.isNext ends then pure (emptyNode, composer)
      else node fuel composer block indentless

/-- Composes the items of a sequence in a block. -/
def blockItems (fuel : Nat) (composer : Composer) : Except Fault (List Node × Composer) := do
  match fuel with
  | 0 => throw .invalid
  | fuel + 1 =>
      match ← composer.peek with
      | some .blockEntry =>
          let (item, composer) ←
            nodeUnless fuel composer.drop [.blockEntry, .blockEnd] true false
          let (items, composer) ← blockItems fuel composer
          pure (item :: items, composer)
      | some .blockEnd => pure ([], composer.drop)
      | _ => throw .invalid

/-- Composes the items of a sequence without an indentation of its own. -/
def indentlessItems (fuel : Nat) (composer : Composer) : Except Fault (List Node × Composer) := do
  match fuel with
  | 0 => throw .invalid
  | fuel + 1 =>
      match ← composer.peek with
      | some .blockEntry =>
          let (item, composer) ←
            nodeUnless fuel composer.drop [.blockEntry, .key, .value, .blockEnd] true false
          let (items, composer) ← indentlessItems fuel composer
          pure (item :: items, composer)
      | _ => pure ([], composer)

/-- Composes the entries of a mapping in a block. -/
def blockEntries (fuel : Nat) (composer : Composer) : Except Fault (List (Node × Node) × Composer) := do
  match fuel with
  | 0 => throw .invalid
  | fuel + 1 =>
      match ← composer.peek with
      | some .key =>
          let (key, composer) ←
            nodeUnless fuel composer.drop [.key, .value, .blockEnd] true true
          let (value, composer) ← if ← composer.isNext [.value] then
              nodeUnless fuel composer.drop [.key, .value, .blockEnd] true true
            else pure (emptyNode, composer)
          let (entries, composer) ← blockEntries fuel composer
          pure ((key, value) :: entries, composer)
      | some .blockEnd => pure ([], composer.drop)
      | _ => throw .invalid

/-- Composes the items of a sequence in a flow. A key among them makes a mapping of one entry. -/
def flowItems (fuel : Nat) (composer : Composer) (first : Bool) : Except Fault (List Node × Composer) := do
  match fuel with
  | 0 => throw .invalid
  | fuel + 1 =>
      if ← composer.isNext [.flowSequenceEnd] then pure ([], composer.drop)
      else
        let composer ← if first then pure composer
          else if ← composer.isNext [.flowEntry] then pure composer.drop
          else throw .invalid
        if ← composer.isNext [.key] then
          let (key, composer) ←
            nodeUnless fuel composer.drop [.value, .flowEntry, .flowSequenceEnd] false false
          let (value, composer) ← if ← composer.isNext [.value] then
              nodeUnless fuel composer.drop [.flowEntry, .flowSequenceEnd] false false
            else pure (emptyNode, composer)
          let (items, composer) ← flowItems fuel composer false
          pure (.mapping .mapping [(key, value)] :: items, composer)
        else if ← composer.isNext [.flowSequenceEnd] then pure ([], composer.drop)
        else
          let (item, composer) ← node fuel composer false false
          let (items, composer) ← flowItems fuel composer false
          pure (item :: items, composer)

/-- Composes the entries of a mapping in a flow. An item without a key is a key without a value. -/
def flowEntries (fuel : Nat) (composer : Composer) (first : Bool) :
    Except Fault (List (Node × Node) × Composer) := do
  match fuel with
  | 0 => throw .invalid
  | fuel + 1 =>
      if ← composer.isNext [.flowMappingEnd] then pure ([], composer.drop)
      else
        let composer ← if first then pure composer
          else if ← composer.isNext [.flowEntry] then pure composer.drop
          else throw .invalid
        if ← composer.isNext [.key] then
          let (key, composer) ←
            nodeUnless fuel composer.drop [.value, .flowEntry, .flowMappingEnd] false false
          let (value, composer) ← if ← composer.isNext [.value] then
              nodeUnless fuel composer.drop [.flowEntry, .flowMappingEnd] false false
            else pure (emptyNode, composer)
          let (entries, composer) ← flowEntries fuel composer false
          pure ((key, value) :: entries, composer)
        else if ← composer.isNext [.flowMappingEnd] then pure ([], composer.drop)
        else
          let (key, composer) ← node fuel composer false false
          let (entries, composer) ← flowEntries fuel composer false
          pure ((key, emptyNode) :: entries, composer)

end

/-! ## The whole document -/

/-- The handles that need no directive. -/
def commonHandles : List (String × String) := [("!", "!"), ("!!", Tag.common)]

/-- Reads the directives in front of a document: whether a version has been given, and the handles. -/
def directives (versioned : Bool) (handles : List (String × String)) :
    List Token → Except Fault (List (String × String) × List Token)
  | .directive (.version major) :: tokens =>
      if versioned || major != 1 then .error .invalid else directives true handles tokens
  | .directive (.tag handle start) :: tokens =>
      if (handles.lookup handle).isSome then .error .invalid
      else directives versioned ((handle, start) :: handles) tokens
  | .directive .other :: tokens => directives versioned handles tokens
  | tokens => .ok (handles, tokens)

/-- Whether a token begins or ends a document. -/
def isBetween : Token → Bool
  | .directive _ | .documentStart | .documentEnd => true
  | _ => false

/-- The fuel that composing some tokens takes at most. -/
def fuelFor (tokens : List Token) : Nat := 4 * tokens.length + 8

/-- Composes the content of a document. -/
def content (composer : Composer) : Except Fault (Node × Composer) :=
  node (fuelFor composer.tokens) composer true false

/-- Composes a document with a line that begins it. -/
def explicitDocument (composer : Composer) : Except Fault (Node × Composer) := do
  let (handles, tokens) ← directives false [] composer.tokens
  let composer := { composer with tokens := tokens, handles := handles ++ commonHandles }
  match ← composer.peek with
  | some .documentStart =>
      let composer := composer.drop
      match ← composer.peek with
      | none => pure (emptyNode, composer)
      | some token => if isBetween token then pure (emptyNode, composer) else composer.content
  | _ => throw .invalid

/-- Makes sure that no other document follows. -/
def checkEnd (composer : Composer) : Except Fault Unit := do
  let tokens := composer.tokens.dropWhile (· == .documentEnd)
  match ← ({ composer with tokens := tokens } : Composer).peek with
  | none => pure ()
  | some _ => throw .invalid

/-- The node of the document in some tokens, none when there is no document. -/
def document (tokens : List Token) (fault : Option Fault) : Except Fault (Option Node) := do
  let composer : Composer := ⟨tokens, fault, commonHandles, []⟩
  match ← composer.peek with
  | none => pure none
  | some token =>
      let (node, composer) ← match token with
        | .directive _ | .documentStart => composer.explicitDocument
        | _ => composer.content
      composer.checkEnd
      pure (some node)

end Composer

end LogRelay.Yaml
