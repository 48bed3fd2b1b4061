import RouterMetrics.Yaml.Value

/-! Documents: values whose collections are told apart, so that one may stand within itself. -/

namespace RouterMetrics.Yaml

/-- A part of a document; a collection is named by its place. -/
inductive Part where
  | scalar (value : Scalar)
  | pair (first second : Part)
  | collection (place : Nat)

/-- The keys and parts of a map. -/
abbrev PartEntries := OrderedMap Scalar Part

/-- A collection of parts. -/
inductive Collection where
  | list (items : List Part)
  | map (entries : PartEntries)
  | set (members : List Scalar)

namespace Collection

/-- Whether a collection has no parts. -/
def isEmpty : Collection → Bool
  | list items => items.isEmpty
  | map entries => entries.entries.isEmpty
  | set members => members.isEmpty

/-- Whether a collection is a map. -/
def isMap : Collection → Bool
  | map _ => true
  | list _ | set _ => false

end Collection

/-- The collections of a document by their places, and the part that holds all others. -/
structure Document where
  root : Part
  collections : Array Collection

namespace Document

/-- The collection that a part is, if it is one. -/
def collection? (document : Document) : Part → Option Collection
  | .collection place => document.collections[place]?
  | .scalar _ | .pair _ _ => none

/-- The entries of a part that is a map. -/
def entries? (document : Document) (part : Part) : Option PartEntries :=
  match document.collection? part with
  | some (.map entries) => some entries
  | _ => none

/-- Whether a part counts as a yes. -/
def isTruthy (document : Document) (part : Part) : Bool :=
  match part with
  | .scalar value => value.isTruthy
  | .pair _ _ => true
  | .collection _ => (document.collection? part).any fun collection => !collection.isEmpty

/-- The value that a part is within the collections around it; it is cut at one of these. -/
def valueWithin (document : Document) (around : List Nat) : (budget : Nat) → Part → Value
  | _, .scalar value => .scalar value
  | 0, _ => .null
  | budget + 1, .pair first second =>
      .pair (document.valueWithin around budget first) (document.valueWithin around budget second)
  | budget + 1, .collection place =>
      match document.collections[place]? with
      | none => .null
      | some collection =>
          if around.contains place then .again collection.isMap
          else
            let inside := document.valueWithin (place :: around) budget
            match collection with
            | .list items => .list (items.map inside)
            | .map entries => .map (entries.mapValues inside)
            | .set members => .set members

/-- The value that a part is on its own; where it comes back into itself it is cut. -/
def value (document : Document) (part : Part) : Value :=
  -- On the way down no collection is met twice, and between two of them is at most one pair.
  document.valueWithin [] (2 * document.collections.size + 2) part

end Document

end RouterMetrics.Yaml
