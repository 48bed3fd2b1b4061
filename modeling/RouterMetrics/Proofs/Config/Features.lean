import RouterMetrics.Config.Features
import RouterMetrics.Proofs.Lists
import RouterMetrics.Proofs.OrderedMap

/-!
The keys under which collectors are enabled.

They are looked up as they are written, and compared with the names of collectors in small letters.
-/

namespace RouterMetrics.Yaml.Scalar

/-- Only a text is compared as a text. -/
theorem identity_eq_text_iff {key : Scalar} {text : String} :
    key.identity = .text text ↔ key = .text text := by
  cases key with
  | text value => simp [identity]
  -- A float is compared as a whole number where it is one.
  | float value origin =>
    simp only [identity, reduceCtorEq, iff_false]
    split
    · simp
    · split <;> simp
  -- A moment is compared by its time, with or without a zone.
  | moment value =>
    simp only [identity, reduceCtorEq, iff_false]
    split <;> simp
  | null | bool _ | int _ | bytes _ | date _ => simp [identity]

/-- Only a text equals a text. -/
theorem beq_text_iff {key : Scalar} {text : String} :
    (key == .text text) = true ↔ key = .text text :=
  (beq_iff_eq (a := key.identity)).trans identity_eq_text_iff

end RouterMetrics.Yaml.Scalar

namespace RouterMetrics.Config.Features

open RouterMetrics.Yaml (Scalar Value)

/-- The text of an entry's key, if it enables a collector. -/
def enabledKey? : Scalar × Value → Option String
  | (.text key, value) => if value.isTruthy then some key else none
  | _ => none

/-- The texts under which collectors are enabled, as they are written. -/
def enabledKeys (features : Features) : List String := features.entries.filterMap enabledKey?

/-- All keys are texts whose small letters are known. -/
def Known (known : List String) (features : Features) : Prop :=
  ∀ key ∈ features.keys, ∃ text, key = .text text ∧ Text.lowercase text ∈ known

variable {features : Features}

/-- A text enables a collector if its value counts as a yes. -/
theorem enabledKey?_eq_some {entry : Scalar × Value} {key : String} :
    enabledKey? entry = some key ↔ entry.1 = .text key ∧ entry.2.isTruthy = true := by
  obtain ⟨scalar, value⟩ := entry
  unfold enabledKey?
  split
  · rename_i text value same
    cases same
    split <;> simp_all
  · -- A key that is no text enables nothing.
    rename_i other
    simp only [reduceCtorEq, false_iff, not_and]
    rintro rfl
    exact absurd rfl (other key value)

/-- The enabled keys are those whose value counts as a yes. -/
theorem mem_enabledKeys {key : String} :
    key ∈ features.enabledKeys ↔
      ∃ value, (Scalar.text key, value) ∈ features.entries ∧ value.isTruthy = true := by
  -- A key is enabled by its own entry.
  simp only [enabledKeys, List.mem_filterMap, enabledKey?_eq_some]
  constructor
  · rintro ⟨⟨scalar, value⟩, inside, rfl, truthy⟩
    exact ⟨value, inside, truthy⟩
  · rintro ⟨value, inside, truthy⟩
    exact ⟨_, inside, rfl, truthy⟩

/-- Enabling one more key adds it to those that are enabled, whatever it was before. -/
theorem mem_enabledKeys_enable {name key : String} :
    key ∈ (features.enable name).enabledKeys ↔ key ∈ features.enabledKeys ∨ key = name := by
  obtain ⟨entries⟩ := features
  simp only [enable, OrderedMap.put, enabledKeys]
  -- The key is found among the entries, or it comes behind them.
  induction entries with
  | nil => simp [OrderedMap.putEntries, enabledKey?, Value.isTruthy, Scalar.isTruthy, Value.bool]
  | cons entry rest ih =>
    rw [OrderedMap.putEntries]
    split
    · rename_i found
      obtain ⟨_, value⟩ := entry
      obtain rfl := Yaml.Scalar.beq_text_iff.mp found
      -- Here the key has the new value, and it is enabled whether it was before or not.
      have now : enabledKey? (.text name, Value.bool true) = some name := rfl
      rw [List.filterMap_cons_some now, List.mem_cons, List.filterMap_cons]
      cases before : enabledKey? (.text name, value) with
      | none => exact Or.comm
      | some old =>
        cases (enabledKey?_eq_some.mp before).1
        rw [List.mem_cons]
        tauto
    · rw [List.filterMap_cons, List.filterMap_cons]
      cases enabledKey? entry with
      | none => exact ih
      | some old => rw [List.mem_cons, List.mem_cons, ih, or_assoc]

/-- Enabling several keys adds them to those that are enabled. -/
theorem mem_enabledKeys_enableAll {names : List String} {key : String} :
    key ∈ Features.enabledKeys (names.foldl enable features) ↔
      key ∈ features.enabledKeys ∨ key ∈ names := by
  -- The induction is on the names, which are enabled one after another.
  induction names generalizing features with
  | nil => simp
  | cons name names ih =>
    rw [List.foldl_cons, ih, mem_enabledKeys_enable, List.mem_cons, or_assoc]

/-- Of different keys each is enabled once. -/
theorem enabledKeys_nodup (distinct : features.Distinct) : features.enabledKeys.Nodup := by
  refine List.pairwise_filterMap.mpr (distinct.imp ?_)
  rintro entry other apart key enabled _ enabled' rfl
  rw [enabledKey?_eq_some] at enabled enabled'
  -- A text equals itself.
  rw [enabled.1, enabled'.1, Yaml.Scalar.beq_text_iff.mpr rfl] at apart
  cases apart

/-- Known keys stay known when a known name is enabled. -/
theorem Known.enable {known : List String} (keys : features.Known known) {name : String}
    (registered : Text.lowercase name ∈ known) : (features.enable name).Known known := by
  -- A key is the name that is enabled, or it was there before.
  intro key member
  rcases OrderedMap.eq_or_mem_keys_of_put member with rfl | earlier
  · exact ⟨name, rfl, registered⟩
  · exact keys key earlier

/-- Known keys stay known when known names are enabled. -/
theorem Known.enableAll {known : List String} (keys : features.Known known) {names : List String}
    (registered : ∀ name ∈ names, Text.lowercase name ∈ known) :
    Features.Known known (names.foldl Features.enable features) := by
  -- The induction is on the names, which are enabled one after another.
  induction names generalizing features with
  | nil => exact keys
  | cons name names ih =>
    exact ih (keys.enable (registered name List.mem_cons_self))
      fun other member => registered other (List.mem_cons_of_mem name member)

/-- The collectors of known keys are named by the small letters of those that are enabled. -/
theorem names_of_known {known : List String} (keys : features.Known known) :
    features.names = .ok (features.enabledKeys.map Text.lowercase) := by
  obtain ⟨entries⟩ := features
  unfold names enabledKeys
  dsimp only
  induction entries with
  | nil => rfl
  | cons entry rest ih =>
    obtain ⟨text, same, -⟩ := keys entry.1 List.mem_cons_self
    have others := ih fun key member => keys key (List.mem_cons_of_mem _ member)
    obtain ⟨_, value⟩ := entry
    obtain rfl : _ = Scalar.text text := same
    -- A text whose value does not count as a yes is left out on both sides.
    cases truthy : value.isTruthy with
    | false => simpa [enabledKey?, truthy] using others
    | true => simp [enabledKey?, truthy, others, bind, Except.bind, pure, Except.pure]

/-- Keys of which none is unknown are known, where the empty text is no name. -/
theorem known_of_unknownKeys {known : List String} (some_known : known ≠ []) (named : "" ∉ known)
    (checked : features.unknownKeys known = .ok []) : features.Known known := by
  unfold unknownKeys at checked
  rw [if_neg (by simpa using some_known)] at checked
  intro key member
  cases mapped : features.keys.mapM keyTexts with
  | error fault => simp [mapped, bind, Except.bind] at checked
  | ok texts =>
    simp only [mapped, bind, Except.bind, pure, Except.pure, Except.ok.injEq, List.map_eq_nil_iff,
      List.filter_eq_nil_iff, Bool.not_eq_true', Bool.not_eq_false, List.contains_iff_mem]
      at checked
    obtain ⟨text, inside, shown⟩ := exists_of_forall₂ (forall₂_of_mapM mapped).flip member
    have registered := checked text inside
    -- Bytes are compared as the empty text, which is no name.
    unfold keyTexts at shown
    split at shown
    · cases shown
      exact ⟨_, rfl, registered⟩
    · cases shown
      exact absurd registered named
    · cases shown

end RouterMetrics.Config.Features
