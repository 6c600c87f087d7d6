import LogRelay.Yaml.Base64
import LogRelay.Yaml.Entries
import LogRelay.Yaml.Node

/-!
# From a text to a value

The tag of a node says how its text or its items make a value. Before a mapping is made, the entries of
the mappings that it takes over are put in front of its own.

A document is checked level by level, from its root down and from its beginning to its end, so the
fault that is reported is the first of those nearest to the root.
-/

namespace LogRelay.Yaml

namespace Node

/-- The tag of a node. -/
def tag? : Node → Option Tag
  | scalar tag _ | sequence tag _ | mapping tag _ => some tag
  | again _ => none

/-! ## Scalars -/

mutual

/-- The text of a node. A mapping can have an entry that stands for the whole. -/
def text? : Node → Option Wording
  | scalar _ text => some text
  | mapping _ entries => wholeText? entries
  | sequence _ _ | again _ => none

/-- The text of the entry that stands for a whole mapping. -/
def wholeText? : List (Node × Node) → Option Wording
  | [] => none
  | (key, value) :: entries =>
      if key.tag? = some .value then text? value else wholeText? entries

end

/-- The words for truth values and what they mean. -/
def flags : List (String × Bool) :=
  [("yes", true), ("no", false), ("true", true), ("false", false), ("on", true), ("off", false)]

/-- The value that a text stands for by its tag. No value is made of a text by a tag of collections. -/
def readScalar (tag : Tag) (text : Wording) : Except Fault Value :=
  match tag with
  | .null => .ok .null
  | .flag =>
      match flags.lookup (String.ofList (text.shown.toList.map Char.toLower)) with
      | some flag => .ok (.flag flag)
      | none => .error .notFlag
  | .integer => (readInteger text.shown).map .integer
  | .double => (readDouble text.shown).map .double
  | .bytes =>
      match readBase64? text.shown with
      | some bytes => .ok (.bytes bytes)
      | none => .error .invalid
  | .moment => readMoment text.shown
  | .text => .ok (.text text)
  | _ => .error .invalid

/-- The value of a node that is made at once, and none for a collection, which is made later. -/
def immediate? (node : Node) : Option (Except Fault Value) :=
  match node with
  | again isMapping => some (.ok (.again isMapping))
  | scalar tag _ | sequence tag _ | mapping tag _ =>
      match tag with
      | .list | .mapping | .set | .orderedMapping | .pairs => none
      | tag =>
          match node.text? with
          | some text => some (readScalar tag text)
          | none => some (.error .invalid)

/-! ## Collections -/

/-- A key, which is a text even if its tag would make it stand for the whole mapping. -/
def asKey : Node → Node
  | scalar .value text => scalar .text text
  | sequence .value items => sequence .text items
  | mapping .value entries => mapping .text entries
  | key => key

mutual

/-- The entries that are taken over by some entries, and the other ones. -/
def splitEntries : List (Node × Node) → Except Fault (List (Node × Node) × List (Node × Node))
  | [] => .ok ([], [])
  | (key, value) :: entries => do
      if key.tag? = some .merge then
        let first ← takenOver value
        let (taken, own) ← splitEntries entries
        pure (first ++ taken, own)
      else
        let (taken, own) ← splitEntries entries
        pure (taken, (key.asKey, value) :: own)

/-- The entries that are taken over from a node. -/
def takenOver : Node → Except Fault (List (Node × Node))
  | mapping _ entries => do
      let (taken, own) ← splitEntries entries
      pure (taken ++ own)
  | sequence _ items => takenOverAll items
  | again true => .ok []
  | again false | scalar _ _ => .error .invalid

/-- The entries that are taken over from some mappings. Those of the last one come first, so the first
one prevails. -/
def takenOverAll : List Node → Except Fault (List (Node × Node))
  | [] => .ok []
  | mapping _ entries :: items => do
      let (taken, own) ← splitEntries entries
      pure ((← takenOverAll items) ++ taken ++ own)
  | again true :: items => takenOverAll items
  | _ :: _ => .error .invalid

end

/-- What a collection consists of. -/
inductive Pieces where
  | items (items : List Node)
  | pairs (pairs : List (Node × Node))
  | entries (entries : List (Node × Node))
  | members (entries : List (Node × Node))

/-- What a collection consists of, if its form fits its tag. -/
def pieces : Node → Except Fault Pieces
  | sequence .list items => .ok (.items items)
  | sequence .orderedMapping items | sequence .pairs items => do
      let pairs ← items.mapM fun
        | mapping _ [pair] => .ok pair
        | _ => .error .invalid
      pure (.pairs pairs)
  | mapping .mapping entries => do
      let (taken, own) ← splitEntries entries
      pure (.entries (taken ++ own))
  | mapping .set entries => do
      let (taken, own) ← splitEntries entries
      pure (.members (taken ++ own))
  | _ => .error .invalid

/-- The nodes of a collection in their order, and whether each is a key. -/
def Pieces.parts : Pieces → List (Bool × Node)
  | .items nodes => nodes.map fun node => (false, node)
  | .pairs nodes => nodes.flatMap fun (first, second) => [(false, first), (false, second)]
  | .entries nodes | .members nodes =>
      nodes.flatMap fun (key, value) => [(true, key), (false, value)]

/-- Checks the parts of a collection that are made at once, and gives the others. No collection can be
a key. -/
def checkParts : List (Bool × Node) → Except Fault (List Node)
  | [] => .ok []
  | (isKey, node) :: parts =>
      match node.immediate? with
      | some (.error fault) => .error fault
      | some (.ok (.again _)) => if isKey then .error .invalid else checkParts parts
      | some (.ok _) => checkParts parts
      | none => if isKey then .error .invalid else do pure (node :: (← checkParts parts))

/-- Checks collections, and then those within them. -/
def checkLevels (fuel : Nat) (nodes : List Node) : Except Fault Unit := do
  match fuel, nodes with
  | _, [] => pure ()
  | 0, _ :: _ => throw .invalid
  | fuel + 1, node :: others =>
      let inner ← checkParts (← node.pieces).parts
      checkLevels fuel (others ++ inner)

/-- Makes the value of a node. -/
def makeValue (fuel : Nat) (node : Node) : Except Fault Value := do
  match node.immediate?, fuel with
  | some value, _ => value
  | none, 0 => throw .invalid
  | none, fuel + 1 =>
      let makePair := fun ((first, second) : Node × Node) => do
        pure (← makeValue fuel first, ← makeValue fuel second)
      match ← node.pieces with
      | .items items => pure (.list (← items.mapM (makeValue fuel)))
      | .pairs pairs =>
          pure (.list ((← pairs.mapM makePair).map fun (first, second) => .pair first second))
      | .entries entries => pure (.mapping (Value.uniteEntries (← entries.mapM makePair)))
      | .members entries =>
          pure (.set ((Value.uniteEntries (← entries.mapM makePair)).map Prod.fst))

mutual

/-- How many nodes a node has, itself included. -/
def size : Node → Nat
  | sequence _ items => sizeOfItems items + 1
  | mapping _ entries => sizeOfEntries entries + 1
  | scalar _ _ | again _ => 1

/-- How many nodes some nodes have. -/
def sizeOfItems : List Node → Nat
  | [] => 0
  | item :: items => item.size + sizeOfItems items

/-- How many nodes some entries have. -/
def sizeOfEntries : List (Node × Node) → Nat
  | [] => 0
  | (key, value) :: entries => key.size + value.size + sizeOfEntries entries

end

/-- The value of the root of a document. -/
def toValue (root : Node) : Except Fault Value := do
  if root.immediate?.isNone then checkLevels root.size [root]
  makeValue root.size root

end Node

/-! ## The text of a document -/

/-- Whether a character may stand in a document. -/
def isAllowed (char : Char) : Bool :=
  char == '\t' || char == '\n' || char == '\r' || (' ' ≤ char && char ≤ '~') || char == '\x85' ||
    ('\u00A0' ≤ char && char ≤ '\uFFFD') || 0x10000 ≤ char.toNat

/-- The value of a text whose lines end with line feeds, null if it holds no document. -/
def read (text : String) : Except Fault Value := do
  let chars := text.toList
  if !chars.all isAllowed then throw .invalid
  let (tokens, fault) := (Lexer.start chars).run
  match ← Composer.document tokens.toList fault with
  | some root => root.toValue
  | none => pure .null

end LogRelay.Yaml
