import RouterMetrics.OrderedMap
import RouterMetrics.Yaml.Moment
import RouterMetrics.Yaml.Token

/-! Nodes: the scalars and collections of a document with their tags; an alias is one more way to
the node that it stands for. -/

namespace RouterMetrics.Yaml

/-- What a node holds; the nodes in a collection are named by their places. -/
inductive Content where
  | scalar (text : String)
  | list (items : List Nat)
  | map (entries : List (Nat × Nat))
deriving Repr, DecidableEq

/-- A scalar or a collection with its tag. -/
structure Node where
  tag : Tag
  content : Content
deriving Repr, DecidableEq

/-- The nodes of a document by their places, and the place of the outermost one. -/
structure NodeGraph where
  nodes : Array Node
  root : Nat

/-- What a plain scalar stands for, as it looks; a break at its end changes nothing. -/
def tagOfPlain (written : String) : Tag :=
  let chars := Text.withoutFinalBreak written.toList
  let text := String.ofList chars
  if flagWords.contains text then .bool
  else if looksReal chars then .float
  else if looksWhole (dropSign chars) then .int
  else if text == "<<" then .merge
  else if nullWords.contains text then .null
  else if (readTime? false chars).isSome then .timestamp
  else if text == "=" then .value
  else if ["!", "&", "*"].contains text then .unknown
  else .text

/-- Where composing stands. -/
structure Composer where
  tokens : List Token
  /-- What ended the tokens early. -/
  fault : Option Fault
  handles : OrderedMap String String
  /-- The places of the nodes that have anchors. -/
  anchors : OrderedMap String Nat
  nodes : Array Node
  /-- How many collections are open. -/
  depth : Nat

/-- A step of composing. -/
abbrev Composing := StateT Composer (Except Fault)

namespace Composing

/-- Fails because the text breaks a rule. -/
def malformed {α : Type} : Composing α := throw .malformed

/-- The next token, which stays. -/
def peek : Composing Token := do
  let composer ← get
  match composer.tokens with
  | token :: _ => return token
  | [] => throw (composer.fault.getD .malformed)

/-- Takes the next token. -/
def skip : Composing Unit :=
  modify fun composer => { composer with tokens := composer.tokens.drop 1 }

/-- Takes a token if it is the next one. -/
def accept (token : Token) : Composing Bool := do
  let found := (← peek) == token
  if found then skip
  return found

/-- Whether the next token is one of some. -/
def sees (tokens : List Token) : Composing Bool := return tokens.contains (← peek)

/-- Adds a node. -/
def add (node : Node) : Composing Nat := do
  let place := (← get).nodes.size
  modify fun composer => { composer with nodes := composer.nodes.push node }
  return place

/-- Remembers the node that an anchor stands for; no two anchors have the same name. -/
def remember (anchor : Option String) (place : Nat) : Composing Unit :=
  match anchor with
  | none => return ()
  | some name => do
      if (← get).anchors.contains name then malformed
      modify fun composer => { composer with anchors := composer.anchors.put name place }

end Composing

/-- How many collections may stand within each other. -/
def depthLimit : Nat := 488

open Composing

/-- What may stand before a node. -/
structure Properties where
  anchor : Option String
  tag : Option String

/-- Takes an anchor, if one is next. -/
def anchor? : Composing (Option String) := do
  match ← peek with
  | .anchor name =>
      skip
      return some name
  | _ => return none

/-- Takes a tag, if one is next. -/
def tagName? : Composing (Option TagName) := do
  match ← peek with
  | .tag name =>
      skip
      return some name
  | _ => return none

/-- The full name of a tag. -/
def fullName (tag : TagName) : Composing String := do
  match tag.handle with
  | none => return tag.name
  | some handle =>
      let some start := (← get).handles.get? handle | malformed
      return start ++ tag.name

/-- Takes an anchor and a tag, in either order. -/
def properties : Composing Properties := do
  let early ← anchor?
  let tag ← tagName?
  let late ← if early.isNone && tag.isSome then anchor? else pure none
  let anchor := early <|> late
  return ⟨anchor, ← tag.mapM fullName⟩

/-- The tag that leaves it to the look of a scalar what it stands for. -/
def openTag : String := "!"

/-- The tag of a collection. -/
def collectionTag (tag : Option String) (usual : Tag) : Tag :=
  match tag with
  | none => usual
  | some name => if name == openTag then usual else .ofName name

/-- A scalar with its tag. -/
def scalarNode (properties : Properties) (text : String) (isPlain : Bool) : Node :=
  let tag :=
    match properties.tag with
    | none => if isPlain then tagOfPlain text else .text
    | some name => if name == openTag then tagOfPlain text else .ofName name
  ⟨tag, .scalar text⟩

/-- Adds a scalar. -/
def addScalar (properties : Properties) (text : String) (isPlain : Bool) : Composing Nat := do
  let place ← add (scalarNode properties text isPlain)
  remember properties.anchor place
  return place

/-- Adds the node where nothing is written. -/
def addEmpty : Composing Nat := add ⟨.null, .scalar ""⟩

/-- Adds a collection, which can be named by its anchor before its content is known. -/
def addCollection (anchor : Option String) (tag : Tag) (empty : Content)
    (content : Composing Content) : Composing Nat := do
  let place ← add ⟨tag, empty⟩
  remember anchor place
  if depthLimit ≤ (← get).depth then throw .tooDeep
  modify fun composer => { composer with depth := composer.depth + 1 }
  let content ← content
  modify fun composer =>
    { composer with
      nodes := composer.nodes.setIfInBounds place ⟨tag, content⟩, depth := composer.depth - 1 }
  return place

/-- Adds a list of the items that follow. -/
def addList (properties : Properties) (items : Composing (List Nat)) : Composing Nat :=
  addCollection properties.anchor (collectionTag properties.tag .list) (.list [])
    (Content.list <$> items)

/-- Adds a mapping of the entries that follow. -/
def addMap (properties : Properties) (entries : Composing (List (Nat × Nat))) : Composing Nat :=
  addCollection properties.anchor (collectionTag properties.tag .map) (.map [])
    (Content.map <$> entries)

/-- The node of properties that nothing follows. -/
def composeNothing (properties : Properties) : Composing Nat :=
  if properties.anchor.isSome || properties.tag.isSome then
    addScalar properties "" properties.tag.isNone
  else malformed

mutual

/-- A node; block collections may be forbidden, and items without indentation may be allowed. -/
def composeNode (block unindented : Bool) : (budget : Nat) → Composing Nat
  | 0 => malformed
  | budget + 1 => do
      if let .alias name ← peek then
        skip
        let some place := (← get).anchors.get? name | malformed
        return place
      let properties ← properties
      match ← peek with
      | .scalar text isPlain =>
          skip
          addScalar properties text isPlain
      | .flowListStart =>
          skip
          addList properties (flowItems true budget)
      | .flowMapStart =>
          skip
          addMap properties (flowEntries true budget)
      | .blockListStart =>
          if !block then malformed
          skip
          addList properties (blockItems budget)
      | .blockMapStart =>
          if !block then malformed
          skip
          addMap properties (blockEntries budget)
      | .blockEntry =>
          if unindented then addList properties (unindentedItems budget)
          else composeNothing properties
      | _ => composeNothing properties

/-- A node, or the empty one where one of some tokens is next. -/
def composeUnless (ends : List Token) (block unindented : Bool) : (budget : Nat) → Composing Nat
  | 0 => malformed
  | budget + 1 => do
      if ← sees ends then return ← addEmpty
      composeNode block unindented budget

/-- The items of a list with an indentation of its own. -/
def blockItems : (budget : Nat) → Composing (List Nat)
  | 0 => malformed
  | budget + 1 => do
      if ← accept .blockEntry then
        let item ← composeUnless [.blockEntry, .blockEnd] true false budget
        return item :: (← blockItems budget)
      unless ← accept .blockEnd do malformed
      return []

/-- The items of a list that is indented as the mapping around it. -/
def unindentedItems : (budget : Nat) → Composing (List Nat)
  | 0 => malformed
  | budget + 1 => do
      if ← accept .blockEntry then
        let item ← composeUnless [.blockEntry, .key, .value, .blockEnd] true false budget
        return item :: (← unindentedItems budget)
      return []

/-- The entries of a mapping with an indentation of its own. -/
def blockEntries : (budget : Nat) → Composing (List (Nat × Nat))
  | 0 => malformed
  | budget + 1 => do
      let ends := [Token.key, .value, .blockEnd]
      if ← accept .key then
        let key ← composeUnless ends true true budget
        let value ← if ← accept .value then composeUnless ends true true budget else addEmpty
        return (key, value) :: (← blockEntries budget)
      unless ← accept .blockEnd do malformed
      return []

/-- The items of a list between brackets. -/
def flowItems (first : Bool) : (budget : Nat) → Composing (List Nat)
  | 0 => malformed
  | budget + 1 => do
      if ← accept .flowListEnd then return []
      unless first do
        unless ← accept .flowEntry do malformed
      if ← accept .flowListEnd then return []
      let item ← if ← accept .key then flowPair budget else composeNode false false budget
      return item :: (← flowItems false budget)

/-- A mapping of one entry that stands as an item of a list. -/
def flowPair : (budget : Nat) → Composing Nat
  | 0 => malformed
  | budget + 1 => do
      let ends := [Token.flowEntry, .flowListEnd]
      addMap ⟨none, none⟩ do
        let key ← composeUnless (.value :: ends) false false budget
        let value ← if ← accept .value then composeUnless ends false false budget else addEmpty
        return [(key, value)]

/-- The entries of a mapping between braces. -/
def flowEntries (first : Bool) : (budget : Nat) → Composing (List (Nat × Nat))
  | 0 => malformed
  | budget + 1 => do
      if ← accept .flowMapEnd then return []
      unless first do
        unless ← accept .flowEntry do malformed
      if ← accept .flowMapEnd then return []
      let ends := [Token.flowEntry, .flowMapEnd]
      if ← accept .key then
        let key ← composeUnless (.value :: ends) false false budget
        let value ←
          if ← accept .value then composeUnless ends false false budget else addEmpty
        return (key, value) :: (← flowEntries false budget)
      let key ← composeNode false false budget
      let value ← addEmpty
      return (key, value) :: (← flowEntries false budget)

end

/-- The handles that every document knows. -/
def usualHandles : OrderedMap String String := .ofList [("!", "!"), ("!!", usualTags)]

/-- Takes the directives of a document: whether the version was given, and its handles so far. -/
def takeDirectives (versioned : Bool) (handles : OrderedMap String String) :
    (budget : Nat) → Composing Unit
  | 0 => malformed
  | budget + 1 => do
      match ← peek with
      | .directive directive =>
          skip
          match directive with
          | .version major =>
              if versioned || major != 1 then malformed
              takeDirectives true handles budget
          | .handle name start =>
              if handles.contains name then malformed
              takeDirectives versioned (handles.put name start) budget
          | .other => takeDirectives versioned handles budget
      | _ =>
          let known := usualHandles.entries.filter fun entry => !handles.contains entry.1
          modify fun composer => { composer with handles := ⟨handles.entries ++ known⟩ }

/-- Takes the marks of ends of documents. -/
def skipDocumentEnds : (budget : Nat) → Composing Unit
  | 0 => return ()
  | budget + 1 => do if ← accept .documentEnd then skipDocumentEnds budget

/-- The node of a document after the mark at its start. -/
def composeMarked (budget : Nat) : Composing Nat := do
  takeDirectives false .empty budget
  unless ← accept .documentStart do malformed
  match ← peek with
  | .directive _ | .documentStart | .documentEnd | .streamEnd => addEmpty
  | _ => composeNode true false budget

/-- Takes the start of a further document, which there may not be. -/
def refuseFurther (budget : Nat) : Composing Unit := do
  takeDirectives false .empty budget
  discard peek
  malformed

/-- The node of the only document, if there is one. -/
def composeDocument (budget : Nat) : Composing (Option Nat) := do
  match ← peek with
  | .streamEnd => return none
  | token =>
      let marked := match token with
        | .directive _ | .documentStart => true
        | _ => false
      let root ← if marked then composeMarked budget else composeNode true false budget
      skipDocumentEnds budget
      unless ← accept .streamEnd do refuseFurther budget
      return some root

/-- The nodes of the only document in a text, if there is one. -/
def NodeGraph.ofSource? (source : Source) : Except Fault (Option NodeGraph) := do
  let (tokens, fault) := tokensOf source
  -- Every step takes a token or is one of a few on the way to the next.
  let budget := 4 * tokens.length + 8
  let start : Composer := ⟨tokens, fault, usualHandles, .empty, #[], 0⟩
  let (root, composer) ← (composeDocument budget).run start
  return root.map fun root => ⟨composer.nodes, root⟩

end RouterMetrics.Yaml
