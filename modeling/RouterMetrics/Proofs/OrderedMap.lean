import Mathlib
import RouterMetrics.OrderedMap

/-! Ordered maps made of pairs: every key in its first place with its last value. -/

namespace RouterMetrics.OrderedMap

variable {κ α : Type} [BEq κ]

/-- One more pair is put into the map of those before it. -/
theorem ofList_concat (pairs : List (κ × α)) (last : κ × α) :
    ofList (pairs ++ [last]) = (ofList pairs).put last.1 last.2 := by
  -- Pairs are put into the map from the first to the last.
  simp [ofList]

/-- A key is in the map exactly if it has a value there. -/
theorem contains_eq_isSome (map : OrderedMap κ α) (key : κ) :
    map.contains key = (map.get? key).isSome := by
  -- Both look for the first entry with the key.
  rw [contains, get?, Option.isSome_map, List.isSome_find?]

/-- A map with other values has the other value of each key. -/
theorem get?_mapValues {β : Type} (f : α → β) (map : OrderedMap κ α) (key : κ) :
    (map.mapValues f).get? key = (map.get? key).map f := by
  -- The values do not matter for finding the entry.
  simp only [get?, mapValues, List.find?_map, Option.map_map]
  rfl

/-- Pairs with other values make the map with other values. -/
theorem ofList_map {β : Type} (f : α → β) (pairs : List (κ × α)) :
    ofList (pairs.map fun pair => (pair.1, f pair.2)) = (ofList pairs).mapValues f := by
  have put_mapValues : ∀ (map : OrderedMap κ α) key value,
      (map.mapValues f).put key (f value) = (map.put key value).mapValues f := by
    rintro ⟨entries⟩ key value
    simp only [put, mapValues, mk.injEq]
    -- A key is found in the same place, as the values do not matter for this.
    induction entries with
    | nil => rfl
    | cons entry rest ih =>
      simp only [List.map_cons, putEntries]
      split
      · rfl
      · rw [List.map_cons, ih]
  induction pairs using List.reverseRecOn with
  | nil => rfl
  | append_singleton pairs last ih =>
    rw [List.map_append, List.map_singleton, ofList_concat, ofList_concat, ih, put_mapValues]

/-- No two entries of the map have equal keys. -/
def Distinct (map : OrderedMap κ α) : Prop :=
  map.entries.Pairwise fun entry other => (entry.1 == other.1) = false

/-- An entry of a map after a put was there before, or it has the new value under an equal key. -/
theorem mem_of_put {map : OrderedMap κ α} {key : κ} {value : α} {entry : κ × α}
    (member : entry ∈ (map.put key value).entries) :
    entry ∈ map.entries ∨
      entry.2 = value ∧ (entry.1 = key ∨ entry.1 ∈ map.keys ∧ (entry.1 == key) = true) := by
  obtain ⟨entries⟩ := map
  unfold put keys at *
  dsimp only at *
  induction entries with
  | nil =>
    obtain rfl := List.mem_singleton.mp member
    exact .inr ⟨rfl, .inl rfl⟩
  | cons first rest ih =>
    rw [putEntries] at member
    split at member
    · -- The key that is found stays as it was first written.
      rename_i turn
      rcases List.mem_cons.mp member with rfl | later
      · exact .inr ⟨rfl, .inr ⟨List.mem_cons_self, turn⟩⟩
      · exact .inl (List.mem_cons_of_mem _ later)
    · rcases List.mem_cons.mp member with rfl | later
      · exact .inl List.mem_cons_self
      · exact (ih later).imp (List.mem_cons_of_mem _)
          fun new => ⟨new.1, new.2.imp_right (.imp_left (List.mem_cons_of_mem _))⟩

/-- A key of a map after a put is the one that was put, or it was there before. -/
theorem eq_or_mem_keys_of_put {map : OrderedMap κ α} {key other : κ} {value : α}
    (member : other ∈ (map.put key value).keys) : other = key ∨ other ∈ map.keys := by
  -- An entry is an earlier one, or the one that was put under this key or one equal to it.
  obtain ⟨entry, inside, rfl⟩ := List.mem_map.mp member
  rcases mem_of_put inside with earlier | ⟨-, same⟩
  · exact .inr (List.mem_map_of_mem earlier)
  · exact same.imp_right And.left

section Sought

variable {sought : κ} (only : ∀ key : κ, (key == sought) = true ↔ key = sought)

include only

/-- A key that equals only itself is in a map after a put if it was put, or was there before. -/
theorem mem_keys_put_iff {map : OrderedMap κ α} {key : κ} {value : α} :
    sought ∈ (map.put key value).keys ↔ sought = key ∨ sought ∈ map.keys := by
  refine ⟨eq_or_mem_keys_of_put, ?_⟩
  obtain ⟨entries⟩ := map
  unfold put keys
  dsimp only
  induction entries with
  | nil => simp [putEntries]
  | cons first rest ih =>
    rw [putEntries]
    split
    · -- The key that is found is not written anew, but it is the one that is sought.
      rename_i turn
      rintro (rfl | there)
      · exact List.mem_map.mpr ⟨_, List.mem_cons_self, (only first.1).mp turn⟩
      · simpa using there
    · rintro (same | there)
      · exact List.mem_cons_of_mem _ (ih (.inl same))
      · rcases List.mem_cons.mp there with rfl | later
        · exact List.mem_cons_self
        · exact List.mem_cons_of_mem _ (ih (.inr later))

/-- A key that equals only itself is in a map of pairs exactly if one of the pairs has it. -/
theorem mem_keys_ofList_iff {pairs : List (κ × α)} :
    sought ∈ (ofList pairs).keys ↔ sought ∈ pairs.map Prod.fst := by
  -- The induction is on the pairs from the last one, which is the one that is put last.
  induction pairs using List.reverseRecOn with
  | nil => exact Iff.rfl
  | append_singleton pairs last ih =>
    rw [ofList_concat, mem_keys_put_iff only, ih, List.map_append, List.mem_append,
      List.map_singleton, List.mem_singleton, or_comm]

/-- A key that equals only itself has a value exactly if it is among the keys. -/
theorem contains_iff_mem_keys {map : OrderedMap κ α} :
    map.contains sought = true ↔ sought ∈ map.keys := by
  -- No other key equals this one.
  rw [contains, List.any_eq_true, keys, List.mem_map]
  simp only [only]

end Sought

/-- A value of a map of pairs is that of one of the pairs. -/
theorem exists_of_mem_ofList {pairs : List (κ × α)} {entry : κ × α}
    (member : entry ∈ (ofList pairs).entries) : ∃ pair ∈ pairs, pair.2 = entry.2 := by
  -- The induction is on the pairs from the last one, which is the one that is put last.
  induction pairs using List.reverseRecOn generalizing entry with
  | nil => exact absurd member List.not_mem_nil
  | append_singleton pairs last ih =>
    rw [ofList_concat] at member
    rcases mem_of_put member with earlier | ⟨same, -⟩
    · obtain ⟨pair, inside, same⟩ := ih earlier
      exact ⟨pair, List.mem_append_left _ inside, same⟩
    · exact ⟨last, List.mem_append_right _ (List.mem_singleton_self _), same.symm⟩

/-- The value of a key in a map of pairs is that of one of the pairs. -/
theorem exists_of_get?_ofList {pairs : List (κ × α)} {key : κ} {value : α}
    (found : (ofList pairs).get? key = some value) : ∃ pair ∈ pairs, pair.2 = value := by
  -- The value stands in an entry of the map.
  obtain ⟨entry, search, rfl⟩ := Option.map_eq_some_iff.mp found
  exact exists_of_mem_ofList (List.mem_of_find?_eq_some search)

namespace Distinct

/-- A map without entries has no two of them. -/
theorem empty : (OrderedMap.empty : OrderedMap κ α).Distinct := List.Pairwise.nil

/-- A key that is put equals none of the others. -/
theorem put {map : OrderedMap κ α} (distinct : map.Distinct) (key : κ) (value : α) :
    (map.put key value).Distinct := by
  obtain ⟨entries⟩ := map
  unfold Distinct OrderedMap.put at *
  dsimp only at *
  induction entries with
  | nil => exact List.pairwise_singleton _ _
  | cons first rest ih =>
    obtain ⟨apart, others⟩ := List.pairwise_cons.mp distinct
    rw [putEntries]
    split
    · exact List.pairwise_cons.mpr ⟨apart, others⟩
    · rename_i passed
      refine List.pairwise_cons.mpr ⟨fun entry member => ?_, ih others⟩
      have there : entry.1 ∈ (OrderedMap.put ⟨rest⟩ key value).keys := List.mem_map_of_mem member
      -- The first key was passed over, so it equals neither the new key nor a later one.
      rcases eq_or_mem_keys_of_put there with same | earlier
      · rw [same]
        exact Bool.eq_false_iff.mpr passed
      · obtain ⟨before, inside, same⟩ := List.mem_map.mp earlier
        rw [← same]
        exact apart before inside

/-- A map of pairs has every key once. -/
theorem ofList (pairs : List (κ × α)) : (OrderedMap.ofList pairs).Distinct := by
  -- The induction is on the pairs from the last one: each is put into a map without doubles.
  induction pairs using List.reverseRecOn with
  | nil => exact .empty
  | append_singleton pairs last ih =>
    rw [ofList_concat]
    exact ih.put last.1 last.2

/-- Other values leave the keys as they are. -/
theorem mapValues {β : Type} {map : OrderedMap κ α} (distinct : map.Distinct) (f : α → β) :
    (map.mapValues f).Distinct := List.pairwise_map.mpr distinct

end Distinct

variable [LawfulBEq κ]

private theorem putEntries_map [DecidableEq κ] (key : κ) (value : α) {keys : List κ} (distinct : keys.Nodup)
    (valueOf : κ → α) :
    putEntries key value (keys.map fun k => (k, valueOf k)) =
      (if key ∈ keys then keys else keys ++ [key]).map
        fun k => (k, if k = key then value else valueOf k) := by
  -- Putting a key into entries that are a function of their keys changes the function there.
  induction keys with
  | nil => simp [putEntries]
  | cons first keys ih =>
    obtain ⟨fresh, distinct⟩ := List.nodup_cons.mp distinct
    by_cases same : first = key
    · -- The key stands here and nowhere behind.
      subst same
      have others : ∀ k ∈ keys, (k, valueOf k) = (k, if k = first then value else valueOf k) := by
        intro k member
        have differs : k ≠ first := fun equal => fresh (equal ▸ member)
        rw [if_neg differs]
      simp [putEntries, List.map_congr_left others]
    · -- The key stands behind, or it comes to the end.
      have turn : ¬ (first == key) = true := by simpa using same
      simp only [List.map_cons, putEntries, turn, ih distinct]
      by_cases member : key ∈ keys <;> simp [member, same, Ne.symm same]

/-- One more key is new or adds nothing. -/
theorem eraseDups_concat [DecidableEq κ] (keys : List κ) (key : κ) :
    (keys ++ [key]).eraseDups = if key ∈ keys then keys.eraseDups else keys.eraseDups ++ [key] := by
  rw [List.eraseDups_append]
  -- Only a key that is already there is removed.
  by_cases member : key ∈ keys <;> simp [List.removeAll, member, List.eraseDups_cons]

/-- No key is left twice. -/
theorem nodup_eraseDups (keys : List κ) : keys.eraseDups.Nodup := by
  classical
  induction keys using List.reverseRecOn with
  | nil => simp
  | append_singleton keys last ih =>
    rw [eraseDups_concat]
    by_cases member : last ∈ keys
    · rwa [if_pos member]
    · rw [if_neg member, List.nodup_append]
      -- A key that is added was not there.
      refine ⟨ih, by simp, ?_⟩
      rintro key inside _ final rfl
      exact member (List.mem_eraseDups.mp (List.mem_singleton.mp final ▸ inside))

/-- The value with which a key came last. -/
def lastValue [Inhabited α] (pairs : List (κ × α)) (key : κ) : α :=
  (pairs.reverse.lookup key).getD default

/-- A map of pairs has each key where it first came, with the value that came last. -/
theorem entries_ofList [Inhabited α] (pairs : List (κ × α)) :
    (ofList pairs).entries =
      (pairs.map Prod.fst).eraseDups.map fun key => (key, lastValue pairs key) := by
  classical
  induction pairs using List.reverseRecOn with
  | nil => rfl
  | append_singleton pairs last ih =>
    -- The last pair is put into the map of those before it.
    have step : (ofList (pairs ++ [last])).entries =
        putEntries last.1 last.2 (ofList pairs).entries := by
      simp [ofList, put]
    have values : ∀ key, lastValue (pairs ++ [last]) key =
        if key = last.1 then last.2 else lastValue pairs key := by
      intro key
      by_cases same : key = last.1
      · simp [lastValue, List.lookup, same]
      · have turn : (key == last.1) = false := by simpa using same
        simp [lastValue, List.lookup, same, turn]
    -- The entries before are a function of their keys, which the put changes in one place.
    rw [step, ih, putEntries_map _ _ (nodup_eraseDups _), List.map_append, List.map_singleton,
      eraseDups_concat]
    simp only [List.mem_eraseDups, values]

/-- A put leaves the keys in their places, and adds a new one at the end. -/
theorem keys_put [DecidableEq κ] (map : OrderedMap κ α) (key : κ) (value : α) :
    (map.put key value).keys = if key ∈ map.keys then map.keys else map.keys ++ [key] := by
  obtain ⟨entries⟩ := map
  simp only [put, keys]
  induction entries with
  | nil => simp [putEntries]
  | cons first rest ih =>
    rw [putEntries]
    by_cases turn : first.1 == key
    · -- The key is found here, and it stays as it was written.
      have same : first.1 = key := by simpa using turn
      simp [same]
    · have differs : key ≠ first.1 := fun same => turn (by simp [same])
      simp only [turn, Bool.false_eq_true, if_false, List.map_cons, ih, List.mem_cons, differs,
        false_or]
      -- A key among the later ones changes nothing, and another one comes behind them.
      by_cases later : key ∈ rest.map Prod.fst <;> simp [later]

/-- An entry of a map after a put is the one that was put, or it was there before. -/
theorem eq_or_mem_of_put {map : OrderedMap κ α} {key : κ} {value : α} {entry : κ × α}
    (member : entry ∈ (map.put key value).entries) : entry = (key, value) ∨ entry ∈ map.entries := by
  rcases mem_of_put member with earlier | ⟨same, rfl | ⟨-, turn⟩⟩
  · exact .inr earlier
  · exact .inl (Prod.ext rfl same)
  · -- A key that equals the new one is the new one.
    exact .inl (Prod.ext (eq_of_beq turn) same)

/-- A key stands in the map with the value that it has. -/
theorem mem_of_get? {map : OrderedMap κ α} {key : κ} {value : α}
    (found : map.get? key = some value) : (key, value) ∈ map.entries := by
  unfold get? at found
  obtain ⟨entry, search, same⟩ := Option.map_eq_some_iff.mp found
  -- Equal keys are the same here, so that the entry has the key itself.
  have sought : entry.1 = key := by simpa using List.find?_some search
  rw [← sought, ← same]
  exact List.mem_of_find?_eq_some search

/-- If no two keys are equal, each has the value with which it stands in the map. -/
theorem get?_of_mem {map : OrderedMap κ α} (distinct : map.Distinct) {key : κ} {value : α}
    (member : (key, value) ∈ map.entries) : map.get? key = some value := by
  obtain ⟨entries⟩ := map
  unfold Distinct at distinct
  unfold get?
  dsimp only at *
  -- The induction is on the entries that the search goes through.
  induction entries with
  | nil => cases member
  | cons first rest ih =>
    obtain ⟨apart, others⟩ := List.pairwise_cons.mp distinct
    rcases List.mem_cons.mp member with rfl | later
    · simp
    · -- The first entry is passed over, since its key is none of those behind it.
      rw [List.find?_cons, apart _ later]
      exact ih others later

/-- A key that is put twice has what was put last. -/
theorem put_put (map : OrderedMap κ α) (key : κ) (value later : α) :
    (map.put key value).put key later = map.put key later := by
  obtain ⟨entries⟩ := map
  simp only [put, mk.injEq]
  -- The second put finds the key where the first one has left it.
  induction entries with
  | nil => simp [putEntries]
  | cons first rest ih =>
    by_cases turn : first.1 == key
    · simp [putEntries, turn]
    · simp [putEntries, turn, ih]

/-- A map of pairs has no other entries. -/
theorem mem_of_mem_ofList {pairs : List (κ × α)} {entry : κ × α}
    (member : entry ∈ (ofList pairs).entries) : entry ∈ pairs := by
  -- The induction is on the pairs from the last one; earlier entries were pairs before.
  induction pairs using List.reverseRecOn with
  | nil => exact member
  | append_singleton pairs last ih =>
    rw [ofList_concat] at member
    rcases eq_or_mem_of_put member with rfl | earlier
    · exact List.mem_append_right _ (List.mem_singleton_self _)
    · exact List.mem_append_left _ (ih earlier)

private theorem putEntries_of_fresh {key : κ} {entries : List (κ × α)} (value : α)
    (fresh : key ∉ entries.map Prod.fst) :
    putEntries key value entries = entries ++ [(key, value)] := by
  -- A new key is put at the end.
  induction entries with
  | nil => rfl
  | cons first rest ih =>
    simp only [List.map_cons, List.mem_cons, not_or] at fresh
    have turn : ¬ (first.1 == key) = true := by simpa using Ne.symm fresh.1
    rw [putEntries, if_neg turn, ih fresh.2]
    rfl

/-- A map of pairs with different keys has these pairs for entries. -/
theorem entries_ofList_of_nodup {pairs : List (κ × α)} (distinct : (pairs.map Prod.fst).Nodup) :
    (ofList pairs).entries = pairs := by
  induction pairs using List.reverseRecOn with
  | nil => rfl
  | append_singleton pairs last ih =>
    rw [List.map_append, List.nodup_append] at distinct
    obtain ⟨earlier, -, apart⟩ := distinct
    -- The last key is a new one, as all keys are different.
    have fresh : last.1 ∉ pairs.map Prod.fst :=
      fun member => apart last.1 member last.1 (List.mem_singleton_self _) rfl
    rw [ofList_concat, put, ih earlier, putEntries_of_fresh last.2 fresh]

end RouterMetrics.OrderedMap
