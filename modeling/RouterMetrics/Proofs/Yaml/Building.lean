import RouterMetrics.Proofs.OrderedMap
import RouterMetrics.Yaml.Building

/-!
Building keeps the keys of maps apart.

Main statement: in the document of a source no map has two equal keys.
-/

namespace RouterMetrics.Yaml

/-- A collection that is a map has no two equal keys. -/
def Collection.Distinct : Collection → Prop
  | .map entries => entries.Distinct
  | .list _ | .set _ => True

/-- All maps that are built so far have different keys. -/
def Builder.Distinct (builder : Builder) : Prop :=
  ∀ collection ∈ builder.collections, collection.Distinct

namespace Building

/-- A step gives results of one kind, and keys that are different stay so. -/
def Keeps {α : Type} (gives : α → Prop) (step : Building α) : Prop :=
  ∀ builder result after, step builder = .ok (result, after) → builder.Distinct →
    gives result ∧ after.Distinct

namespace Keeps

variable {α β : Type} {gives : α → Prop} {later : β → Prop}

/-- A result that is given at once. -/
protected theorem pure {result : α} (given : gives result) :
    Keeps gives (pure result : Building α) := by
  -- Neither the builder nor its maps are touched.
  intro builder _ _ ended distinct
  cases ended
  exact ⟨given, distinct⟩

/-- A fault gives nothing. -/
protected theorem throw (fault : Fault) : Keeps gives (throw fault : Building α) := by
  -- There is no result after which anything would have to hold.
  intro builder _ _ ended
  cases ended

/-- Two steps in turn. -/
protected theorem bind {step : Building α} {next : α → Building β} (head : Keeps gives step)
    (tail : ∀ result, gives result → Keeps later (next result)) : Keeps later (step >>= next) := by
  -- The second step starts with the builder that the first one has left.
  intro builder result after ended distinct
  simp only [Bind.bind, StateT.bind, Except.bind] at ended
  cases first : step builder with
  | error fault =>
    rw [first] at ended
    cases ended
  | ok given =>
    rw [first] at ended
    obtain ⟨holds, kept⟩ := head builder given.1 given.2 first distinct
    exact tail given.1 holds given.2 result after ended kept

/-- Two steps in turn, the second whatever the first has given. -/
theorem andThen {step : Building α} {next : α → Building β} (head : Keeps (fun _ => True) step)
    (tail : ∀ result, Keeps later (next result)) : Keeps later (step >>= next) :=
  -- What the first step has given does not matter for the second one.
  head.bind fun result _ => tail result

/-- A result that is made of another one. -/
protected theorem map {step : Building α} (f : α → β) (head : Keeps (fun _ => True) step) :
    Keeps (fun _ => True) (f <$> step) := by
  -- A result that is made of another one is a second step that changes nothing.
  rw [map_eq_pure_bind]
  exact head.andThen fun _ => .pure trivial

/-- Looking at the builder changes nothing. -/
protected theorem get : Keeps (fun _ => True) (get : Building Builder) := by
  -- The builder is the result, and it is left as it is.
  intro builder _ _ ended distinct
  cases ended
  exact ⟨trivial, distinct⟩

/-- What can fail without a builder does not change it. -/
protected theorem lift (result : Except Fault α) :
    Keeps (fun _ => True) (liftM result : Building α) := by
  -- A fault ends the step; a value is given with the same builder.
  intro builder given after ended distinct
  cases result with
  | error fault => cases ended
  | ok value =>
    cases ended
    exact ⟨trivial, distinct⟩

/-- A change of the builder that leaves the keys of its maps apart. -/
protected theorem modify {change : Builder → Builder}
    (kept : ∀ builder, builder.Distinct → (change builder).Distinct) :
    Keeps (fun _ => True) (modify change : Building Unit) := by
  -- The changed builder is the only thing that is left.
  intro builder _ _ ended distinct
  cases ended
  exact ⟨trivial, kept builder distinct⟩

/-- A step for every item of a list. -/
protected theorem mapM {step : α → Building β} (items : List α)
    (each : ∀ item, Keeps (fun _ => True) (step item)) :
    Keeps (fun _ => True) (items.mapM step) := by
  -- The induction is on the items, which are gone through in turn.
  induction items with
  | nil => exact .pure trivial
  | cons item items ih =>
    rw [List.mapM_cons]
    exact (each item).andThen fun _ => ih.andThen fun _ => .pure trivial

/-- A step without a result for every item of a list. -/
protected theorem forM {step : α → Building Unit} (items : List α)
    (each : ∀ item, Keeps (fun _ => True) (step item)) :
    Keeps (fun _ => True) (items.forM step) := by
  -- The induction is on the items, which are gone through in turn.
  induction items with
  | nil => exact .pure trivial
  | cons item items ih => exact (each item).andThen fun _ => ih

/-- A test of the items of a list, up to the first that passes. -/
theorem findM {test : α → Building Bool} (items : List α)
    (each : ∀ item, Keeps (fun _ => True) (test item)) :
    Keeps (fun _ => True) (items.findM? test) := by
  induction items with
  | nil => exact .pure trivial
  | cons item items ih =>
    refine (each item).andThen fun passed => ?_
    -- The search ends at an item that passes, and goes on behind one that does not.
    cases passed with
    | true => exact .pure trivial
    | false => exact ih

/-- Looking at a node. -/
theorem nodeAt (place : Nat) : Keeps (fun _ => True) (nodeAt place) := by
  -- A place without a node is a fault.
  refine Keeps.get.andThen fun builder => ?_
  split
  · exact .pure trivial
  · exact .throw _

/-- Looking at the tag of a node. -/
theorem tagAt (place : Nat) : Keeps (fun _ => True) (tagAt place) :=
  (nodeAt place).andThen fun _ => .pure trivial

/-- Looking at the entries of a node. -/
theorem entriesAt (place : Nat) : Keeps (fun _ => True) (entriesAt place) := by
  -- Only a mapping has entries.
  refine (nodeAt place).andThen fun node => ?_
  split
  · exact .pure trivial
  · exact .throw _
  · exact .throw _

/-- Looking at the items of a node. -/
theorem itemsAt (place : Nat) : Keeps (fun _ => True) (itemsAt place) := by
  -- Only a sequence has items.
  refine (nodeAt place).andThen fun node => ?_
  split
  · exact .pure trivial
  · exact .throw _
  · exact .throw _

/-- Changing a node. -/
theorem change (place : Nat) (step : Node → Node) : Keeps (fun _ => True) (change place step) :=
  -- The nodes are changed, and the maps stand elsewhere in the builder.
  .modify (by exact fun _ distinct => distinct)

/-- Reading the text of a node. -/
theorem textAt (place budget : Nat) : Keeps (fun _ => True) (textAt place budget) := by
  induction budget generalizing place with
  | zero => exact .throw _
  | succ budget ih =>
    refine (nodeAt place).andThen fun node => ?_
    split
    · exact .pure trivial
    · exact .throw _
    · -- The text of a mapping is that of its entry for the whole.
      rename_i entries _
      have search : Keeps (fun _ => True) (entries.findM? fun entry => do
          return (← Building.tagAt entry.1) == .value) :=
        findM entries fun entry => (tagAt entry.1).andThen fun _ => .pure trivial
      refine search.andThen fun whole => ?_
      split
      · exact ih _
      · exact .throw _

/-- Reading the scalar of a node. -/
theorem scalarAt (place : Nat) : Keeps (fun _ => True) (scalarAt place) := by
  refine (nodeAt place).andThen fun node => Keeps.get.andThen fun builder =>
    (textAt place _).andThen fun text => ?_
  -- Tags of collections have no scalars, and a scalar is read without the builder.
  split
  · exact .throw _
  · exact .lift _

/-- Looking for an entry with a tag. -/
theorem takeFirst (tag : Tag) (entries : List (Nat × Nat)) :
    Keeps (fun _ => True) (takeFirst tag entries) := by
  -- The induction is on the entries: the first with the tag is taken out, the others stay.
  induction entries with
  | nil => exact .pure trivial
  | cons entry entries ih =>
    refine (tagAt entry.1).andThen fun found => ?_
    split
    · exact .pure trivial
    · exact ih.map _

/-- Making texts of keys for the whole. -/
theorem settleKeys (entries : List (Nat × Nat)) : Keeps (fun _ => True) (settleKeys entries) := by
  -- Only keys with the tag of values are changed.
  refine Keeps.forM entries fun entry => (tagAt entry.1).andThen fun tag => ?_
  split
  · exact change _ _
  · exact .pure trivial

/-- Merging changes nodes only. -/
theorem flatten (place : Nat) (taken : List (Nat × Nat)) (budget : Nat) :
    Keeps (fun _ => True) (flatten place taken budget) := by
  induction budget generalizing place taken with
  | zero => exact .pure trivial
  | succ budget ih =>
    refine (entriesAt place).andThen fun entries =>
      (takeFirst .merge entries).andThen fun first => ?_
    split
    · exact (settleKeys entries).andThen fun _ => change _ _
    · rename_i source rest
      refine (change _ _).andThen fun _ => (nodeAt source).andThen fun node => ?_
      -- The source is one mapping, a list of them, or nothing that can be merged.
      have merged : ∀ sources : List Nat, Keeps (fun _ => True) (do
          let found ← sources.mapM fun source => do
            Building.flatten source [] budget
            Building.entriesAt source
          Building.flatten place (taken ++ found.reverse.flatten) budget) := fun sources =>
        (Keeps.mapM sources fun source => (ih source []).andThen fun _ => entriesAt source).andThen
          fun _ => ih place _
      split
      · exact (Keeps.pure trivial).andThen merged
      · exact (Keeps.pure trivial).andThen merged
      · exact (Keeps.throw _).andThen merged

/-- Merging what a mapping takes from others. -/
theorem flattenAll (place : Nat) : Keeps (fun _ => True) (flattenAll place) :=
  Keeps.get.andThen fun _ => flatten place [] _

/-- An empty collection is opened behind the others. -/
theorem openCollection (place : Nat) (empty : Collection) (distinct : empty.Distinct) :
    Keeps (fun _ => True) (openCollection place empty) := by
  intro builder result after ended before
  cases ended
  refine ⟨trivial, fun collection member => ?_⟩
  -- The new collection stands behind those that were there.
  rcases Array.mem_push.mp member with earlier | rfl
  · exact before collection earlier
  · exact distinct

/-- The part of a node: a collection is opened for it, or it is a scalar. -/
theorem partAt (place : Nat) : Keeps (fun _ => True) (partAt place) := by
  -- A part that is known is given again; else it is made by the tag of the node.
  refine Keeps.get.andThen fun builder => ?_
  split
  · exact .pure trivial
  · refine (tagAt place).andThen fun tag => ?_
    have noted : ∀ part : Part, Keeps (fun _ => True) (do
        modify fun builder =>
          { builder with parts := builder.parts.setIfInBounds place (some part) }
        return part) := fun part =>
      (Keeps.modify (by exact fun _ distinct => distinct)).andThen fun _ => .pure trivial
    split
    · exact (openCollection place (.list []) trivial).andThen noted
    · exact (openCollection place (.list []) trivial).andThen noted
    · exact (openCollection place (.map .empty) .empty).andThen noted
    · exact (openCollection place (.set []) trivial).andThen noted
    · exact ((scalarAt place).map Part.scalar).andThen noted

/-- The key of a node. -/
theorem keyAt (place : Nat) : Keeps (fun _ => True) (keyAt place) := by
  -- Collections are no keys.
  refine (partAt place).andThen fun part => ?_
  split
  · exact .pure trivial
  · exact .throw _

/-- The key and the part of an entry. -/
theorem entryOf (entry : Nat × Nat) : Keeps (fun _ => True) (entryOf entry) :=
  (keyAt entry.1).andThen fun _ => (partAt entry.2).andThen fun _ => .pure trivial

/-- The pair of an item. -/
theorem pairAt (place : Nat) : Keeps (fun _ => True) (pairAt place) := by
  -- An item is a pair if it has one entry only.
  refine (entriesAt place).andThen fun entries => ?_
  split
  · exact (partAt _).andThen fun _ => (partAt _).andThen fun _ => .pure trivial
  · exact .throw _

/-- What a collection is filled with: the entries of a map are put one after another. -/
theorem contentAt (place : Nat) : Keeps Collection.Distinct (contentAt place) := by
  refine (tagAt place).andThen fun tag => ?_
  split
  · exact (itemsAt place).andThen fun items =>
      (Keeps.mapM items partAt).andThen fun _ => .pure trivial
  · exact (itemsAt place).andThen fun items =>
      (Keeps.mapM items pairAt).andThen fun _ => .pure trivial
  · -- A mapping is flattened before its entries are read.
    refine ((entriesAt place).map _).andThen fun _ =>
      (flattenAll place).andThen fun _ => (entriesAt place).andThen fun entries =>
        (Keeps.mapM entries entryOf).andThen fun pairs => .pure ?_
    split
    · trivial
    · -- Of two entries with one key the later one takes the place of the earlier.
      exact OrderedMap.Distinct.ofList pairs

/-- Filling collections one after another. -/
theorem fill (budget : Nat) : Keeps (fun _ => True) (fill budget) := by
  induction budget with
  | zero => exact .pure trivial
  | succ budget ih =>
    refine Keeps.get.andThen fun builder => ?_
    split
    · exact .pure trivial
    · rename_i place found unfilled _
      refine (Keeps.modify (by exact fun _ distinct => distinct)).andThen fun _ =>
        (contentAt place).bind fun content distinct => (Keeps.modify ?_).andThen fun _ => ih
      -- The content takes the place of a collection that was empty so far.
      intro builder before collection member
      rcases Array.mem_or_eq_of_mem_setIfInBounds member with earlier | rfl
      · exact before collection earlier
      · exact distinct

/-- Building a node and everything in it. -/
theorem build (root : Nat) : Keeps (fun _ => True) (build root) :=
  (partAt root).andThen fun _ => Keeps.get.andThen fun _ => (fill _).andThen fun _ => .pure trivial

end Keeps

end Building

/-- In the document of nodes no map has two equal keys. -/
theorem Document.collections_distinct {graph : NodeGraph} {document : Document}
    (built : Document.ofGraph graph = .ok document) :
    ∀ collection ∈ document.collections, collection.Distinct := by
  simp only [ofGraph, StateT.run, Bind.bind, Except.bind] at built
  split at built
  · cases built
  · rename_i ended
    cases built
    -- Building starts without collections.
    exact (Building.Keeps.build graph.root _ _ _ ended nofun).2

/-- In the document of a source no map has two equal keys. -/
theorem Document.entries_distinct {source : Source} {document : Document}
    (read : Document.ofSource? source = .ok (some document)) {part : Part} {entries : PartEntries}
    (there : document.entries? part = some entries) : entries.Distinct := by
  have collections : ∀ collection ∈ document.collections, collection.Distinct := by
    simp only [ofSource?, Bind.bind, Except.bind] at read
    split at read
    · cases read
    · rename_i graph? _
      cases graph? with
      | none => cases read
      | some graph =>
        simp only [Option.mapM, Functor.map, Except.map] at read
        split at read
        · cases read
        · rename_i built
          cases read
          exact collections_distinct built
  unfold entries? at there
  split at there
  · rename_i held
    cases there
    -- The part names the place of a collection.
    unfold collection? at held
    split at held
    · exact collections _ (Array.mem_of_getElem? held)
    · cases held
    · cases held
  · cases there

end RouterMetrics.Yaml
