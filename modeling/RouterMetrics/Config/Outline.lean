import RouterMetrics.Config.Device
import RouterMetrics.Config.Features
import RouterMetrics.Yaml.Document

/-! Outlines: what a document says about features, profiles and devices, as far as each of them has
the shape for it. -/

namespace RouterMetrics.Config

open RouterMetrics.Yaml (Document Part PartEntries Scalar)

/-- The three things that a document is about. -/
structure Outline where
  features : Shaped Features
  /-- The profiles with their names. -/
  profiles : Shaped (List (Scalar × Shaped Features))
  /-- The fields of the devices; none for an item that is not a map. -/
  devices : Shaped (List (Option Device.Fields))

namespace Outline

/-- The items of a part, if it has any kind of items: a map has its keys, a text its characters. -/
def itemsOf (document : Document) (part : Part) : Shaped (List Part) :=
  match part, document.collection? part with
  | .scalar (.text text), _ => .ok (text.toList.map fun c => .scalar (.text c.toString))
  | .scalar (.bytes bytes), _ => .ok (bytes.map fun byte => .scalar (.int byte.toNat))
  | .scalar _, _ => .error .noItems
  | .pair first second, _ => .ok [first, second]
  | .collection _, some (.list items) => .ok items
  | .collection _, some (.map entries) => .ok (entries.keys.map Part.scalar)
  | .collection _, some (.set members) => .ok (members.map Part.scalar)
  | .collection _, none => .ok []

/-- The entry that an item of a list stands for: a key and its part. -/
def entryOf (document : Document) (item : Part) (index : Nat) : Shaped (Scalar × Part) := do
  match ← itemsOf document item with
  | [.scalar key, part] => return (key, part)
  | [_, _] => throw .collectionKey
  | items => throw (.notPair index items.length)

/-- The features that a part stands for: a map, or anything with pairs for its items. -/
def featuresOf (document : Document) (part : Part) : Shaped Features := do
  match document.entries? part with
  | some entries => return entries.mapValues document.value
  | none =>
      let items ← itemsOf document part
      let entries ← items.zipIdx.mapM fun (item, index) => entryOf document item index
      return (OrderedMap.ofList entries).mapValues document.value

/-- The features of a profile; a part that does not count as a yes has none. -/
def profileOf (document : Document) (part : Part) : Shaped Features :=
  if document.isTruthy part then featuresOf document part else .ok .empty

/-- The fields of a part that is a map. -/
def fieldsOf? (document : Document) (part : Part) : Option Device.Fields :=
  (document.entries? part).map fun entries name =>
    (entries.get? (.text name)).map document.value

/-- What the entries of a document say. -/
def ofEntries (document : Document) (entries : PartEntries) : Outline :=
  let given? := fun name => (entries.get? (.text name)).filter document.isTruthy
  { features := (given? "features").elim (.ok .empty) (featuresOf document)
    profiles :=
      match given? "profiles" with
      | none => .ok []
      | some part =>
          match document.entries? part with
          | none => .error .notMap
          | some profiles =>
              .ok (profiles.entries.map fun (name, part) => (name, profileOf document part))
    devices :=
      match given? "devices" with
      | none => .ok []
      | some part => (itemsOf document part).map fun items => items.map (fieldsOf? document) }

end Outline

end RouterMetrics.Config
