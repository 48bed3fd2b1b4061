import RouterMetrics.Proofs.Config.Reported

/-!
Documents of any shape: which of them are loaded or refused as configurations.

Main statement: these are the documents in which everything that is read before the first refusal
has the shape for it.
-/

namespace RouterMetrics.Config

open RouterMetrics.Yaml (Document Part PartEntries Scalar)

section Parts

variable (known : List String) (document : Document) (part : Part)

/-- Whether a part has items: every collection has, and of the scalars texts and bytes have. -/
def hasItems : Part → Bool
  | .scalar value => isWord value
  | .pair _ _ | .collection _ => true

/-- A part is a key and another part. -/
def IsEntry : Prop := ∃ key inside, Outline.itemsOf document part = .ok [.scalar key, inside]

/-- A part is a map, or everything in it is a key and another part. -/
def IsTable : Prop := (document.entries? part).isSome = true ∨
  ∃ items, Outline.itemsOf document part = .ok items ∧ ∀ item ∈ items, IsEntry document item

/-- Features can be told from a part: it is a table, unless it counts as nothing, and its keys are
all texts or bytes. -/
structure TellsFeatures : Prop where
  table : document.isTruthy part = true → IsTable document part
  legible : ∀ features, Outline.profileOf document part = .ok features → features.IsLegible

/-- A part tells of features with known keys only, or of none. -/
def IsAccepted : Prop :=
  ∃ features, Outline.profileOf document part = .ok features ∧ features.Known known

/-- Profiles can be told from a part: it is a map, and in it features can be told from each part
behind accepted ones only, and the name of that part if it is not accepted. -/
def TellsProfiles : Prop := ∃ profiles, document.entries? part = some profiles ∧
  ∀ before name own after, profiles.entries = before ++ (name, own) :: after →
    (∀ earlier ∈ before, IsAccepted known document earlier.2) →
    TellsFeatures document own ∧ (IsAccepted known document own ∨ ∃ text, name.text? = some text)

/-- Devices can be told from a part: it has items, and if all of them are maps, the fields of all of
them can be read. -/
structure TellsDevices : Prop where
  items : hasItems part = true
  fields : ∀ items, Outline.itemsOf document part = .ok items →
    (∀ item ∈ items, (document.entries? item).isSome = true) →
    ∀ item ∈ items, ∀ fields, Outline.fieldsOf? document item = some fields → fields.IsReadable

end Parts

section Parts

variable {known : List String} {document : Document} {part : Part}

/-- The items of a part can be told exactly if it has any kind of items. -/
theorem exists_itemsOf_iff :
    (∃ items, Outline.itemsOf document part = .ok items) ↔ hasItems part = true := by
  -- Each kind of part either has items or is refused.
  unfold Outline.itemsOf
  split <;> simp_all [hasItems, isWord]

/-- An item stands for an entry exactly if it is a key and a part. -/
theorem exists_entryOf_iff {index : Nat} :
    (∃ entry, Outline.entryOf document part index = .ok entry) ↔ IsEntry document part := by
  unfold Outline.entryOf IsEntry
  rw [exists_ok_bind_iff]
  constructor
  · -- There is an entry for one kind of items only.
    rintro ⟨items, told, entry, made⟩
    split at made
    · exact ⟨_, _, told⟩
    · cases made
    · cases made
  · rintro ⟨key, inside, told⟩
    exact ⟨_, told, (key, inside), rfl⟩

/-- Features can be made of a part exactly if it is a table. -/
theorem exists_featuresOf_iff :
    (∃ features, Outline.featuresOf document part = .ok features) ↔ IsTable document part := by
  unfold Outline.featuresOf IsTable
  cases document.entries? part with
  | some entries => exact iff_of_true ⟨_, rfl⟩ (.inl rfl)
  | none =>
    -- A part that is no map is a table only by its items.
    rw [or_iff_right (by simp), exists_ok_bind_iff]
    refine exists_congr fun items => and_congr_right fun _ => ?_
    rw [exists_ok_bind_pure_iff, exists_ok_mapM_iff]
    simp only [Prod.forall, exists_entryOf_iff]
    constructor
    · intro each item member
      obtain ⟨index, inside⟩ := exists_mem_zipIdx member
      exact each item index inside
    · exact fun each item index inside => each item (List.fst_mem_of_mem_zipIdx inside)

/-- Features can be told from a part exactly if there are some with texts or bytes for keys. -/
theorem tellsFeatures_iff : TellsFeatures document part ↔
    ∃ features, Outline.profileOf document part = .ok features ∧ features.IsLegible := by
  -- What counts as nothing has no features, of which every key is a text.
  have table : (∃ features, Outline.profileOf document part = .ok features) ↔
      (document.isTruthy part = true → IsTable document part) := by
    unfold Outline.profileOf
    split
    · rename_i truthy
      rw [exists_featuresOf_iff, imp_iff_right truthy]
    · rename_i falsy
      exact iff_of_true ⟨_, rfl⟩ fun truthy => absurd truthy falsy
  rw [exists_ok_and_iff, table]
  constructor
  · rintro ⟨table, legible⟩
    exact ⟨table, legible⟩
  · rintro ⟨table, legible⟩
    exact ⟨table, legible⟩

/-- Devices can be told from a part exactly if there are items, and their fields can be read. -/
theorem tellsDevices_iff : TellsDevices document part ↔
    ∃ items, Outline.itemsOf document part = .ok items ∧
      ((∀ item ∈ items, (document.entries? item).isSome = true) →
        ∀ item ∈ items, ∀ fields, Outline.fieldsOf? document item = some fields →
          fields.IsReadable) := by
  -- The items of a part are the same wherever they are told.
  rw [exists_ok_and_iff, exists_itemsOf_iff]
  constructor
  · rintro ⟨items, fields⟩
    exact ⟨items, fields⟩
  · rintro ⟨items, fields⟩
    exact ⟨items, fields⟩

/-- The features of a map's profiles are accepted exactly if the profiles are. -/
theorem forall_accepted_iff {profiles : List (Scalar × Part)} :
    (∀ profile ∈ profiles.map fun (name, own) => (name, Outline.profileOf document own),
      ∃ features, profile.2 = .ok features ∧ features.Known known) ↔
      ∀ profile ∈ profiles, IsAccepted known document profile.2 := by
  rw [List.forall_mem_map]
  rfl

/-- Profiles are accepted or refused exactly if each is that stands behind accepted ones only. -/
theorem reported_profileParts_iff (some_known : known ≠ []) (named : "" ∉ known)
    {profiles : List (Scalar × Part)} :
    Reported (profilesOf known (profiles.map fun (name, own) =>
      (name, Outline.profileOf document own))) ↔
      ∀ before name own after, profiles = before ++ (name, own) :: after →
        (∀ earlier ∈ before, IsAccepted known document earlier.2) →
        TellsFeatures document own ∧
          (IsAccepted known document own ∨ ∃ text, name.text? = some text) := by
  rw [reported_profilesOf_iff some_known named]
  constructor
  · rintro reported before name own after rfl accepted
    obtain ⟨features, told, legible, known⟩ := reported _ name (Outline.profileOf document own) _
      (by rw [List.map_append, List.map_cons]) (forall_accepted_iff.mpr accepted)
    exact ⟨tellsFeatures_iff.mpr ⟨features, told, legible⟩,
      known.imp_left fun keys => ⟨features, told, keys⟩⟩
  · -- Every profile that is checked stands for a part of the map.
    intro tells before name shape after split accepted
    obtain ⟨earlier, rest, same, rfl, others⟩ := List.map_eq_append_iff.mp split
    obtain ⟨⟨_, own⟩, later, rfl, named, -⟩ := List.map_eq_cons_iff.mp others
    cases named
    obtain ⟨legible, known⟩ := tells earlier _ own later same (forall_accepted_iff.mp accepted)
    obtain ⟨features, told, legible⟩ := tellsFeatures_iff.mp legible
    refine ⟨features, told, legible, known.imp_left ?_⟩
    rintro ⟨other, same, keys⟩
    cases told.symm.trans same
    exact keys

end Parts

section Entries

variable (known : List String) (document : Document) (entries : PartEntries)

/-- An entry of a document that counts as a yes. -/
def Given (name : String) (part : Part) : Prop :=
  entries.get? (.text name) = some part ∧ document.isTruthy part = true

/-- The features of all are accepted. -/
def FeaturesAccepted : Prop :=
  ∀ part, entries.get? (.text "features") = some part → IsAccepted known document part

/-- The profiles are all accepted. -/
def ProfilesAccepted : Prop :=
  ∀ part, Given document entries "profiles" part →
    ∀ profiles, document.entries? part = some profiles →
      ∀ profile ∈ profiles.entries, IsAccepted known document profile.2

/-- Everything that is read of a document before the first refusal has the shape for it. -/
structure WellShaped : Prop where
  features : ∀ part, entries.get? (.text "features") = some part → TellsFeatures document part
  profiles : FeaturesAccepted known document entries →
    ∀ part, Given document entries "profiles" part → TellsProfiles known document part
  devices : FeaturesAccepted known document entries → ProfilesAccepted known document entries →
    ∀ part, Given document entries "devices" part → TellsDevices document part

end Entries

section Entries

variable {known : List String} {document : Document} {entries : PartEntries}

/-- Features of a kind that none are of too are told exactly if they are of the entry for them. -/
theorem exists_features_iff {kind : Features → Prop} (bare : kind .empty) :
    (∃ features, (Outline.ofEntries document entries).features = .ok features ∧ kind features) ↔
      ∀ part, entries.get? (.text "features") = some part →
        ∃ features, Outline.profileOf document part = .ok features ∧ kind features := by
  change (∃ features, ((entries.get? (.text "features")).filter document.isTruthy).elim
    (.ok .empty) (Outline.featuresOf document) = .ok features ∧ kind features) ↔ _
  cases entries.get? (.text "features") with
  -- Without an entry there are no features, which are of the kind.
  | none => exact iff_of_true ⟨_, rfl, bare⟩ (by simp)
  | some part =>
    -- An entry that counts as nothing is left out, just as a profile that is.
    by_cases truthy : document.isTruthy part <;>
      simp [truthy, bare, Outline.profileOf, Option.filter]

/-- The devices are told exactly if they can be told from the entry for them. -/
theorem devicesTold_iff : (Outline.ofEntries document entries).DevicesTold ↔
    ∀ part, Given document entries "devices" part → TellsDevices document part := by
  unfold Outline.DevicesTold Outline.ofEntries Given
  simp only [← Option.filter_eq_some_iff, tellsDevices_iff]
  cases (entries.get? (.text "devices")).filter document.isTruthy with
  | none => simp
  | some part =>
    simp only [Option.some.injEq, forall_eq']
    cases Outline.itemsOf document part with
    | error fault => simp [Except.map]
    | ok items =>
      -- An item has fields exactly if it is a map.
      have whole : ∀ item,
          (Outline.fieldsOf? document item).isSome = (document.entries? item).isSome :=
        fun item => Option.isSome_map
      simp only [Except.map, Except.ok.injEq, exists_eq_left', List.forall_mem_map, whole]
      simp only [List.mem_map, forall_exists_index, and_imp]
      exact imp_congr_right fun _ => forall_comm.trans (forall_congr' fun _ => forall_comm)

/-- The profiles are told exactly if they can be told from the entry for them. -/
theorem profilesTold_iff (some_known : known ≠ []) (named : "" ∉ known) :
    (Outline.ofEntries document entries).ProfilesTold known ↔
      (∀ part, Given document entries "profiles" part → TellsProfiles known document part) ∧
      (ProfilesAccepted known document entries →
        ∀ part, Given document entries "devices" part → TellsDevices document part) := by
  unfold Outline.ProfilesTold ProfilesAccepted
  rw [devicesTold_iff]
  unfold Outline.ofEntries Given
  simp only [← Option.filter_eq_some_iff]
  cases (entries.get? (.text "profiles")).filter document.isTruthy with
  | none =>
    -- Where none are told, none can be refused.
    simp [show Reported (profilesOf known []) from reported_ok _]
  | some part =>
    simp only [Option.some.injEq, forall_eq', TellsProfiles]
    cases document.entries? part with
    | none => simp
    | some profiles =>
      simp only [Option.some.injEq, Except.ok.injEq, exists_eq_left', forall_eq']
      rw [reported_profileParts_iff some_known named, forall_accepted_iff]

end Entries

/-- A document is loaded or refused exactly if all that is read before the first refusal has the
shape for it, or there is not even a map. -/
theorem reported_ofDocument_iff {known : List String} (some_known : known ≠ [])
    (named : "" ∉ known) {document : Document} :
    Reported (ofDocument known document) ↔
      ∀ entries, document.entries? document.root = some entries →
        WellShaped known document entries := by
  unfold ofDocument
  split
  · rename_i null
    -- What stands for nothing is no map.
    rw [null]
    exact iff_of_true (reported_throw_iff.mpr rfl) fun entries there => by cases there
  · rename_i entries there _
    -- Where no features are told, there are no keys that could be neither texts nor known.
    have legible : Features.IsLegible .empty := by
      intro key member
      cases member
    have bare : Features.Known known .empty := by
      intro key member
      cases member
    rw [there, reported_ofOutline_iff some_known named, profilesTold_iff some_known named,
      exists_features_iff legible, exists_features_iff bare]
    simp only [Option.some.injEq, forall_eq', ← tellsFeatures_iff]
    constructor
    · rintro ⟨features, rest⟩
      exact ⟨features, fun accepted => (rest accepted).1, fun accepted => (rest accepted).2⟩
    · rintro ⟨features, profiles, devices⟩
      exact ⟨features, fun accepted => ⟨profiles accepted, devices accepted⟩⟩
  · rename_i missing _
    rw [missing]
    exact iff_of_true (reported_throw_iff.mpr rfl) fun entries there => by cases there

section Sources

variable {known : List String} {source : Yaml.Source} {document? : Option Document}
  (parsed : Document.ofSource? source = .ok document?)

include parsed

/-- Where a source holds a document, it is the document that is loaded. -/
theorem loadSource_of_parsed :
    loadSource known source = document?.elim (.error .empty) (ofDocument known) := by
  -- A source without a document is refused.
  rw [loadSource, parsed]
  cases document? <;> rfl

/-- Sources that hold documents are judged. -/
theorem isJudged_loadSource : IsJudged (loadSource known source) := by
  -- The fault of a source without a document is one of the configuration.
  rw [loadSource_of_parsed parsed]
  cases document? with
  | none => exact (reported_throw_iff.mpr rfl).isJudged
  | some document => exact isJudged_ofDocument

/-- A source is loaded or refused exactly if its document is, or holds nothing. -/
theorem reported_loadSource_iff (some_known : known ≠ []) (named : "" ∉ known) :
    Reported (loadSource known source) ↔ ∀ document, document? = some document →
      ∀ entries, document.entries? document.root = some entries →
        WellShaped known document entries := by
  rw [loadSource_of_parsed parsed]
  cases document? with
  -- A source without a document is refused in any case.
  | none => exact iff_of_true (reported_throw_iff.mpr rfl) (by simp)
  | some document =>
    simp only [Option.some.injEq, forall_eq', Option.elim_some,
      reported_ofDocument_iff some_known named]

end Sources

end RouterMetrics.Config
