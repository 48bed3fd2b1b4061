import RouterMetrics.Yaml.Document
import RouterMetrics.Yaml.Node
import RouterMetrics.Yaml.ScalarText

/-! Building: the document that nodes stand for. Every node is built once, so whatever leads to one
node leads to one part. Collections are made empty and filled later, in the order in which they were
made; this is why a collection may be part of itself. -/

namespace RouterMetrics.Yaml

/-- Where building stands. -/
structure Builder where
  /-- The nodes, some of which change when mappings are merged. -/
  nodes : Array Node
  /-- The parts that nodes stand for, as far as they are built. -/
  parts : Array (Option Part)
  collections : Array Collection
  /-- The places of nodes whose collections are still empty, and the places of these. -/
  unfilled : List (Nat × Nat)

/-- A step of building. -/
abbrev Building := StateT Builder (Except Fault)

namespace Building

/-- Fails because a node does not fit its tag. -/
def malformed {α : Type} : Building α := throw .malformed

/-- The node at a place. -/
def nodeAt (place : Nat) : Building Node := do
  let some node := (← get).nodes[place]? | malformed
  return node

/-- The tag of the node at a place. -/
def tagAt (place : Nat) : Building Tag := return (← nodeAt place).tag

/-- The entries of the node at a place, which has to be a mapping. -/
def entriesAt (place : Nat) : Building (List (Nat × Nat)) := do
  match (← nodeAt place).content with
  | .map entries => return entries
  | .scalar _ | .list _ => malformed

/-- The items of the node at a place, which has to be a list. -/
def itemsAt (place : Nat) : Building (List Nat) := do
  match (← nodeAt place).content with
  | .list items => return items
  | .scalar _ | .map _ => malformed

/-- Changes the node at a place. -/
def change (place : Nat) (step : Node → Node) : Building Unit :=
  modify fun builder => { builder with nodes := builder.nodes.modify place step }

/-! Scalars. -/

/-- The text of the node at a place: its own, or that of the entry for the whole of a mapping. -/
def textAt (place : Nat) : (budget : Nat) → Building String
  | 0 => throw .tooDeep
  | budget + 1 => do
      match (← nodeAt place).content with
      | .scalar text => return text
      | .list _ => malformed
      | .map entries =>
          let whole ← entries.findM? fun entry => return (← tagAt entry.1) == .value
          let some (_, value) := whole | malformed
          textAt value budget

/-- The scalar that the node at a place stands for. -/
def scalarAt (place : Nat) : Building Scalar := do
  let node ← nodeAt place
  -- A longer way from entry to entry comes back to where it was.
  let text ← textAt place ((← get).nodes.size + 1)
  match node.tag, node.content with
  | .timestamp, .map _ => throw .notTimeText
  | tag, _ => scalarOf tag place text

/-! Merging. -/

/-- The value of the first entry with a tag in its key, and the other entries. -/
def takeFirst (tag : Tag) : List (Nat × Nat) → Building (Option (Nat × List (Nat × Nat)))
  | [] => return none
  | (key, value) :: entries => do
      if (← tagAt key) == tag then return some (value, entries)
      return (← takeFirst tag entries).map fun (found, rest) => (found, (key, value) :: rest)

/-- Makes texts of the keys for the whole: among merged entries they are keys like others. -/
def settleKeys (entries : List (Nat × Nat)) : Building Unit :=
  entries.forM fun (key, _) => do
    if (← tagAt key) == .value then change key fun node => { node with tag := .text }

/-- Puts the entries that a mapping takes from others before its own, after those already taken. -/
def flatten (place : Nat) (taken : List (Nat × Nat)) : (budget : Nat) → Building Unit
  | 0 => return ()
  | budget + 1 => do
      let entries ← entriesAt place
      match ← takeFirst .merge entries with
      | none =>
          settleKeys entries
          change place fun node => { node with content := .map (taken ++ entries) }
      | some (source, rest) =>
          change place fun node => { node with content := .map rest }
          -- Of several mappings the later ones come first.
          let sources ← match (← nodeAt source).content with
            | .map _ => pure [source]
            | .list items => pure items
            | .scalar _ => malformed
          let found ← sources.mapM fun source => do
            flatten source [] budget
            entriesAt source
          flatten place (taken ++ found.reverse.flatten) budget

/-- Merges what a mapping takes from others. -/
def flattenAll (place : Nat) : Building Unit := do
  -- Every step but the last takes an entry for merging out of some mapping.
  let size := fun (node : Node) => match node.content with
    | .map entries => entries.length
    | .scalar _ | .list _ => 0
  flatten place [] ((← get).nodes.foldl (fun total node => total + size node) 1)

/-! Collections. -/

/-- Makes an empty collection that the node at a place will fill. -/
def openCollection (place : Nat) (empty : Collection) : Building Part := do
  let builder ← get
  let found := builder.collections.size
  set { builder with
    collections := builder.collections.push empty
    unfilled := builder.unfilled ++ [(place, found)] }
  return .collection found

/-- The part that the node at a place stands for. -/
def partAt (place : Nat) : Building Part := do
  if let some (some part) := (← get).parts[place]? then return part
  let part ← match ← tagAt place with
    | .list | .pairs => openCollection place (.list [])
    | .map => openCollection place (.map .empty)
    | .set => openCollection place (.set [])
    | _ => Part.scalar <$> scalarAt place
  modify fun builder => { builder with parts := builder.parts.setIfInBounds place (some part) }
  return part

/-- The key that the node at a place stands for; only scalars are keys. -/
def keyAt (place : Nat) : Building Scalar := do
  let .scalar key ← partAt place | malformed
  return key

/-- The key and the part of an entry. -/
def entryOf (entry : Nat × Nat) : Building (Scalar × Part) :=
  return (← keyAt entry.1, ← partAt entry.2)

/-- The pair that an item of a list of pairs stands for: a mapping with one entry. -/
def pairAt (place : Nat) : Building Part := do
  let [(first, second)] ← entriesAt place | malformed
  return .pair (← partAt first) (← partAt second)

/-- The parts of the collection that the node at a place stands for. -/
def contentAt (place : Nat) : Building Collection := do
  match ← tagAt place with
  | .list => return .list (← (← itemsAt place).mapM partAt)
  | .pairs => return .list (← (← itemsAt place).mapM pairAt)
  | tag =>
      discard (entriesAt place)
      flattenAll place
      let entries := OrderedMap.ofList (← (← entriesAt place).mapM entryOf)
      return if tag == .set then .set entries.keys else .map entries

/-- Fills the collections that are still empty, and those that come up on the way. -/
def fill : (budget : Nat) → Building Unit
  | 0 => return ()
  | budget + 1 => do
      match (← get).unfilled with
      | [] => return ()
      | (place, found) :: unfilled =>
          modify fun builder => { builder with unfilled }
          let content ← contentAt place
          modify fun builder =>
            { builder with collections := builder.collections.setIfInBounds found content }
          fill budget

/-- Builds the outermost node and everything in it. -/
def build (root : Nat) : Building Part := do
  let part ← partAt root
  -- No node has more than one collection.
  fill ((← get).nodes.size + 1)
  return part

end Building

/-- The document that nodes stand for. -/
def Document.ofGraph (graph : NodeGraph) : Except Fault Document := do
  let start : Builder := ⟨graph.nodes, Array.replicate graph.nodes.size none, #[], []⟩
  let (root, builder) ← (Building.build graph.root).run start
  return ⟨root, builder.collections⟩

/-- The document in a text; in an empty text there is none. -/
def Document.ofSource? (source : Source) : Except Fault (Option Document) := do
  (← NodeGraph.ofSource? source).mapM Document.ofGraph

/-- Whether a character may stand in a document. -/
def isAllowed (c : Char) : Bool :=
  let code := c.toNat
  code == 0x9 || code == 0xA || code == 0xD || (0x20 ≤ code && code ≤ 0x7E) || code == 0x85 ||
    (0xA0 ≤ code && code != 0xFFFE && code != 0xFFFF)

/-- A text that can be read to its end, if all its characters may stand in a document. -/
def Source.ofText (text : String) : Except Fault Source :=
  if text.toList.all isAllowed then .ok ⟨text.toList, none⟩ else .error .malformed

end RouterMetrics.Yaml
