/-! Maps that keep their keys in the order in which they first came. -/

namespace RouterMetrics

/-- Entries in the order in which their keys were first put. -/
structure OrderedMap (κ α : Type) where
  entries : List (κ × α)
deriving Repr, DecidableEq

namespace OrderedMap

variable {κ α : Type}

/-- The map without entries. -/
def empty : OrderedMap κ α := ⟨[]⟩

/-- Entries with a key set to a value: in its old place, or at the end if it is new. -/
def putEntries [BEq κ] (key : κ) (value : α) : List (κ × α) → List (κ × α)
  | [] => [(key, value)]
  | (old, kept) :: rest =>
      -- An old key stays as it was first written, also where an equal one has another form.
      if old == key then (old, value) :: rest else (old, kept) :: putEntries key value rest

/-- The map with a key set to a value. -/
def put [BEq κ] (map : OrderedMap κ α) (key : κ) (value : α) : OrderedMap κ α :=
  ⟨putEntries key value map.entries⟩

/-- The value of a key. -/
def get? [BEq κ] (map : OrderedMap κ α) (key : κ) : Option α :=
  (map.entries.find? fun entry => entry.1 == key).map Prod.snd

/-- The value of a key, or a default. -/
def getD [BEq κ] (map : OrderedMap κ α) (key : κ) (default : α) : α :=
  (map.get? key).getD default

/-- Whether a key has a value. -/
def contains [BEq κ] (map : OrderedMap κ α) (key : κ) : Bool :=
  map.entries.any fun entry => entry.1 == key

/-- The map without a key. -/
def erase [BEq κ] (map : OrderedMap κ α) (key : κ) : OrderedMap κ α :=
  ⟨map.entries.filter fun entry => !(entry.1 == key)⟩

/-- The keys in order. -/
def keys (map : OrderedMap κ α) : List κ :=
  map.entries.map Prod.fst

/-- The values in order of their keys. -/
def values (map : OrderedMap κ α) : List α :=
  map.entries.map Prod.snd

/-- Pairs put one after another into an empty map. -/
def ofList [BEq κ] (pairs : List (κ × α)) : OrderedMap κ α :=
  pairs.foldl (fun map pair => map.put pair.1 pair.2) empty

/-- The map with every value replaced by a function of it. -/
def mapValues {β : Type} (f : α → β) (map : OrderedMap κ α) : OrderedMap κ β :=
  ⟨map.entries.map fun entry => (entry.1, f entry.2)⟩

/-- A key that was just put has its new value. -/
theorem get?_put_self [BEq κ] [LawfulBEq κ] (map : OrderedMap κ α) (key : κ) (value : α) :
    (map.put key value).get? key = some value := by
  obtain ⟨entries⟩ := map
  induction entries with
  | nil => simp [put, get?, putEntries]
  | cons entry rest ih =>
    -- The first entry either holds the key or is passed over by both operations.
    by_cases same : entry.1 == key
    · simp [put, get?, putEntries, same]
    · simpa [put, get?, putEntries, same] using ih

/-- Putting one key leaves the values of the others. -/
theorem get?_put_of_ne [BEq κ] [LawfulBEq κ] (map : OrderedMap κ α) {key other : κ} (value : α)
    (differs : other ≠ key) : (map.put key value).get? other = map.get? other := by
  obtain ⟨entries⟩ := map
  -- The induction is on the entries: the put ends at its key, and the search goes past it.
  induction entries with
  | nil => simp [put, get?, putEntries, Ne.symm differs]
  | cons entry rest ih =>
    by_cases same : entry.1 == key
    · have found : entry.1 = key := by simpa using same
      simp [put, get?, putEntries, found, Ne.symm differs]
    · by_cases sought : entry.1 == other
      · simp [put, get?, putEntries, same, sought]
      · simpa [put, get?, putEntries, same, sought] using ih

end OrderedMap

end RouterMetrics
