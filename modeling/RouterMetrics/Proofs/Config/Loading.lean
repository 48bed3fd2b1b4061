import RouterMetrics.Config.Basic
import RouterMetrics.Proofs.Config.Features
import RouterMetrics.Proofs.Yaml.Building

/-!
What becomes of a document that is loaded: features and profiles with the collector that is always
enabled, and the devices that are not disabled.
-/

namespace RouterMetrics.Config

open RouterMetrics.Yaml (Document Part PartEntries Scalar Source)

/-- What a document says, where everything in it has the shape for it. -/
structure Draft where
  features : Features
  profiles : List (Scalar × Features)
  devices : List Device.Fields

namespace Draft

/-- The outline in which everything has its shape. -/
def outline (draft : Draft) : Outline where
  features := .ok draft.features
  profiles := .ok (draft.profiles.map fun profile => (profile.1, .ok profile.2))
  devices := .ok (draft.devices.map some)

/-- The features of a device: those of its profile, if it has one, or those of all. -/
def featuresOf? (draft : Draft) (device : Device) : Option Features :=
  if device.profile.isEmpty then some draft.features
  else (OrderedMap.ofList draft.profiles).get? (.text device.profile)

/-- The features of a device are those of all or those of a profile. -/
theorem exists_of_featuresOf? {draft : Draft} {device : Device} {features : Features}
    (own : draft.featuresOf? device = some features) :
    features = draft.features ∨ ∃ profile ∈ draft.profiles, profile.2 = features := by
  -- Without a profile the features of all are those of the device.
  unfold featuresOf? at own
  split at own
  · exact .inl (Option.some.inj own).symm
  · exact .inr (OrderedMap.exists_of_get?_ofList own)

/-- The names of the collectors that are enabled for a device itself. -/
def namesOf? (draft : Draft) (device : Device) : Option (List String) :=
  (draft.featuresOf? device).bind fun features => (features.enable alwaysEnabled).names.toOption

/-- The fields of the devices that are not disabled. -/
def scraped (draft : Draft) : List Device.Fields :=
  draft.devices.filter fun fields => !fields.flag "disabled"

end Draft

/-- The source holds a document that tells of this draft. -/
def Holds (source : Source) (draft : Draft) : Prop :=
  ∃ document entries, Document.ofSource? source = .ok (some document) ∧
    document.entries? document.root = some entries ∧
    Outline.ofEntries document entries = draft.outline

/-- Different drafts have different outlines. -/
theorem Draft.outline_injective : Function.Injective Draft.outline := by
  -- The parts of an outline are those of the draft, each wrapped as one that has its shape.
  rintro ⟨features, profiles, devices⟩ ⟨features', profiles', devices'⟩ same
  simp only [outline, Outline.mk.injEq, Except.ok.injEq] at same
  obtain ⟨rfl, shapes, fields⟩ := same
  have profiles : profiles = profiles' := List.map_injective_iff.mpr
    (fun profile other same => by simpa [Prod.ext_iff] using same) shapes
  have devices : devices = devices' := List.map_injective_iff.mpr (Option.some_injective _) fields
  rw [profiles, devices]

/-- A source tells of one draft only. -/
theorem Holds.unique {source : Source} {draft other : Draft} (held : Holds source draft)
    (held' : Holds source other) : draft = other := by
  obtain ⟨document, entries, read, there, told⟩ := held
  obtain ⟨document', entries', read', there', told'⟩ := held'
  -- The source holds one document, and this has one root.
  obtain rfl := Option.some.inj (Except.ok.inj (read.symm.trans read'))
  obtain rfl := Option.some.inj (there.symm.trans there')
  exact Draft.outline_injective (told.symm.trans told')

/-- The configuration is made of what a document says. -/
structure MadeOf (known : List String) (draft : Draft) (config : Config) : Prop where
  features : config.features = draft.features.enable alwaysEnabled
  profiles : config.profiles =
    (OrderedMap.ofList draft.profiles).mapValues fun features => features.enable alwaysEnabled
  /-- The devices are those that are not disabled, in their order. -/
  devices : List.Forall₂ (fun fields device => Device.ofFields fields = .ok device)
    draft.scraped config.devices
  /-- Nothing is missing of a device. -/
  given : ∀ device ∈ config.devices, ∀ field, device.field field ≠ ""
  /-- Every device has features, be it those of a profile or those of all. -/
  profiled : ∀ device ∈ config.devices, ∃ features, draft.featuresOf? device = some features
  /-- No key is unknown. -/
  checked : draft.features.unknownKeys known = .ok [] ∧
    ∀ profile ∈ draft.profiles, profile.2.unknownKeys known = .ok []

/-- Features that pass the check have no unknown keys, and get one more enabled. -/
theorem checkedFeatures_ok {known : List String} {fault : List Problem → Except Fault Fault}
    {features checked : Features} (passed : checkedFeatures known fault features = .ok checked) :
    features.unknownKeys known = .ok [] ∧ checked = features.enable alwaysEnabled := by
  obtain ⟨keys, told, rest⟩ := ok_of_bind passed
  cases keys with
  | nil =>
    cases rest
    exact ⟨ok_of_mapError told, rfl⟩
  | cons key others =>
    -- Unknown keys are a fault, if they can be told.
    obtain ⟨fault, -, thrown⟩ := ok_of_bind rest
    cases thrown

/-- A profile that passes the check has its shape and no unknown keys. -/
theorem profileOf_ok {known : List String} {name : Scalar} {shape : Shaped Features}
    {checked : Features} (passed : profileOf known name shape = .ok checked) :
    ∃ features, shape = .ok features ∧ features.unknownKeys known = .ok [] ∧
      checked = features.enable alwaysEnabled := by
  -- The shape has been read, and the keys have been checked.
  obtain ⟨features, shaped, passed⟩ := ok_of_bind passed
  exact ⟨features, ok_of_mapError shaped, checkedFeatures_ok passed⟩

/-- Profiles that pass the check are given with their shapes, and keep their names. -/
theorem profilesOf_ok {known : List String} {profiles : List (Scalar × Shaped Features)}
    {checked : OrderedMap Scalar Features} (passed : profilesOf known profiles = .ok checked) :
    ∃ given : List (Scalar × Features),
      profiles = given.map (fun profile => (profile.1, .ok profile.2)) ∧
      (∀ profile ∈ given, profile.2.unknownKeys known = .ok []) ∧
      checked =
        (OrderedMap.ofList given).mapValues fun features => features.enable alwaysEnabled := by
  obtain ⟨pairs, mapped, made⟩ := ok_of_bind passed
  cases made
  have each : List.Forall₂ (fun profile (pair : Scalar × Features) => ∃ features,
      profile = (pair.1, .ok features) ∧ features.unknownKeys known = .ok [] ∧
        pair.2 = features.enable alwaysEnabled) profiles pairs := by
    refine (forall₂_of_mapM mapped).imp fun profile pair passed => ?_
    obtain ⟨checked, own, made⟩ := ok_of_bind passed
    cases made
    obtain ⟨features, shape, keys, rfl⟩ := profileOf_ok own
    exact ⟨features, Prod.ext rfl shape, keys, rfl⟩
  -- The profiles are put together again from their names and features.
  have given : ∃ given : List (Scalar × Features),
      profiles = given.map (fun profile => (profile.1, .ok profile.2)) ∧
      (∀ profile ∈ given, profile.2.unknownKeys known = .ok []) ∧
      pairs = given.map fun profile => (profile.1, profile.2.enable alwaysEnabled) := by
    clear mapped passed
    induction each with
    | nil => exact ⟨[], rfl, fun _ none => absurd none List.not_mem_nil, rfl⟩
    | @cons profile pair profiles pairs first _ ih =>
      obtain ⟨given, rfl, checked, rfl⟩ := ih
      obtain ⟨features, rfl, keys, enabled⟩ := first
      exact ⟨(pair.1, features) :: given, rfl, List.forall_mem_cons.mpr ⟨keys, checked⟩,
        List.cons_eq_cons.mpr ⟨Prod.ext rfl enabled, rfl⟩⟩
  obtain ⟨given, shapes, keys, rfl⟩ := given
  exact ⟨given, shapes, keys,
    OrderedMap.ofList_map (fun features : Features => features.enable alwaysEnabled) given⟩

/-- A device that fields describe is disabled if they say so. -/
theorem ofFields_disabled {fields : Device.Fields} {device : Device}
    (described : Device.ofFields fields = .ok device) :
    device.disabled = fields.flag "disabled" := by
  -- The parts that are read before it do not matter.
  unfold Device.ofFields at described
  iterate 7 obtain ⟨_, -, described⟩ := ok_of_bind described
  cases described
  rfl

/-- A device without defects has all that has to be given, and a profile that is known, if any. -/
theorem whole_of_defects {isProfile : String → Bool} {device : Device}
    (whole : device.defects isProfile = []) :
    (∀ field, device.field field ≠ "") ∧
      (device.profile.isEmpty = true ∨ isProfile device.profile = true) := by
  unfold Device.defects at whole
  dsimp only at whole
  split at whole
  · rename_i profiled
    refine ⟨fun field empty => ?_, by simpa using profiled⟩
    have listed : field ∈ Field.all := by cases field <;> simp [Field.all]
    -- A part that is empty would be among those that are missing.
    have missing := List.filter_eq_nil_iff.mp (List.map_eq_nil_iff.mp whole) field listed
    exact missing (by simp [empty])
  · simp at whole

/-- Every item of a list has its place. -/
theorem exists_mem_zipIdx {α : Type} {items : List α} {item : α} (member : item ∈ items) :
    ∃ index, (item, index) ∈ items.zipIdx := by
  -- Without their places the items are those of the list.
  rw [← List.zipIdx_map_fst 0 items] at member
  obtain ⟨⟨_, index⟩, inside, rfl⟩ := List.mem_map.mp member
  exact ⟨index, inside⟩

/-- Where no item is without fields, there are fields for all of them. -/
theorem fields_of_strayDevices {fields : List (Option Device.Fields)}
    (none : strayDevices fields = []) : fields = (fields.filterMap id).map some := by
  -- An item without fields would be one of the strays.
  have there : ∀ item ∈ fields, item.isSome = true := by
    intro item member
    obtain ⟨index, inside⟩ := exists_mem_zipIdx member
    have passed := List.filter_eq_nil_iff.mp (List.map_eq_nil_iff.mp none) _ inside
    simpa [Option.isSome_iff_ne_none] using passed
  -- The induction is on the items, each of which has fields.
  clear none
  induction fields with
  | nil => rfl
  | cons item items ih =>
    obtain ⟨first, others⟩ := List.forall_mem_cons.mp there
    obtain ⟨own, rfl⟩ := Option.isSome_iff_exists.mp first
    exact congrArg (some own :: ·) (ih others)

/-- Where there are no problems, no device has a defect. -/
theorem defects_of_problemsOf {isProfile : String → Bool} {devices : List Device}
    (none : problemsOf isProfile devices = []) :
    ∀ device ∈ devices, device.defects isProfile = [] := by
  -- Every defect of a device would be a problem.
  intro device member
  obtain ⟨index, inside⟩ := exists_mem_zipIdx member
  exact List.map_eq_nil_iff.mp (List.flatMap_eq_nil_iff.mp none _ inside)

/-- Devices that pass the check all have fields, and those that are not disabled have no defects. -/
theorem devicesOf_ok {isProfile : String → Bool} {fields : List (Option Device.Fields)}
    {devices : List Device} (passed : devicesOf isProfile fields = .ok devices) :
    ∃ given : List Device.Fields, fields = given.map some ∧
      List.Forall₂ (fun fields device => Device.ofFields fields = .ok device)
        (given.filter fun fields => !fields.flag "disabled") devices ∧
      ∀ device ∈ devices, device.defects isProfile = [] := by
  unfold devicesOf at passed
  dsimp only at passed
  split at passed
  · -- All items have fields, so none of them is left out before they are read.
    rename_i noStray
    obtain ⟨all, described, passed⟩ := ok_of_bind passed
    split at passed
    · rename_i noProblems
      cases passed
      refine ⟨fields.filterMap id, fields_of_strayDevices (List.isEmpty_iff.mp noStray), ?_,
        defects_of_problemsOf (List.isEmpty_iff.mp noProblems)⟩
      refine List.rel_filter ?_ (forall₂_of_mapM (ok_of_mapError described))
      intro fields device described
      simp only [ofFields_disabled described]
    · cases passed
  · cases passed

/-- The configuration of an outline is made of what the outline says. -/
theorem ofOutline_ok {known : List String} {outline : Outline} {config : Config}
    (passed : ofOutline known outline = .ok config) :
    ∃ draft : Draft, outline = draft.outline ∧ MadeOf known draft config := by
  obtain ⟨features, shape, passed⟩ := ok_of_bind passed
  obtain ⟨checked, passedFeatures, passed⟩ := ok_of_bind passed
  obtain ⟨profiles, shapes, passed⟩ := ok_of_bind passed
  obtain ⟨checkedProfiles, passedProfiles, passed⟩ := ok_of_bind passed
  obtain ⟨items, listed, passed⟩ := ok_of_bind passed
  obtain ⟨devices, passedDevices, made⟩ := ok_of_bind passed
  cases made
  -- What has passed each check is told back to what was checked.
  obtain ⟨keys, rfl⟩ := checkedFeatures_ok passedFeatures
  obtain ⟨given, rfl, profileKeys, rfl⟩ := profilesOf_ok passedProfiles
  obtain ⟨fields, rfl, described, whole⟩ := devicesOf_ok passedDevices
  have same : outline = (Draft.mk features given fields).outline := by
    obtain ⟨_, _, _⟩ := outline
    simp only [Draft.outline, Outline.mk.injEq]
    exact ⟨ok_of_mapError shape, ok_of_mapError shapes, ok_of_mapError listed⟩
  refine ⟨⟨features, given, fields⟩, same, ?_⟩
  exact
    { features := rfl
      profiles := rfl
      devices := described
      given := fun device inside => (whole_of_defects (whole device inside)).1
      profiled := by
        intro device inside
        unfold Draft.featuresOf?
        split
        · exact ⟨features, rfl⟩
        · rename_i named
          -- A profile that was checked to be known is one of those that are given.
          have known := (whole_of_defects (whole device inside)).2.resolve_left named
          rw [OrderedMap.contains_eq_isSome, OrderedMap.get?_mapValues, Option.isSome_map] at known
          exact Option.isSome_iff_exists.mp known
      checked := ⟨keys, profileKeys⟩ }

/-- The configuration that is loaded from a source is made of what its document says. -/
theorem loadSource_ok {known : List String} {source : Source} {config : Config}
    (loaded : loadSource known source = .ok config) :
    ∃ draft, Holds source draft ∧ MadeOf known draft config := by
  obtain ⟨document?, read, loaded⟩ := ok_of_bind loaded
  cases document? with
  | none => cases loaded
  | some document =>
    change ofDocument known document = .ok config at loaded
    unfold ofDocument at loaded
    -- Only a map is a configuration.
    split at loaded
    · cases loaded
    · rename_i entries there _
      obtain ⟨draft, outline, made⟩ := ofOutline_ok loaded
      exact ⟨draft, ⟨document, entries, ok_of_mapError read, there, outline⟩, made⟩
    · cases loaded

section Distinct

variable {document : Document}
  (distinct : ∀ {part entries}, document.entries? part = some entries → entries.Distinct)

include distinct

/-- Features have different keys, whether they are a map or something with pairs for its items. -/
theorem featuresOf_distinct {part : Part} {features : Features}
    (shape : Outline.featuresOf document part = .ok features) : features.Distinct := by
  unfold Outline.featuresOf at shape
  split at shape
  · -- The keys of a mapping are different from the start.
    rename_i entries there
    cases shape
    exact (distinct there).mapValues _
  · -- Pairs are put into a map one after another.
    obtain ⟨items, -, shape⟩ := ok_of_bind shape
    obtain ⟨entries, -, made⟩ := ok_of_bind shape
    cases made
    exact (OrderedMap.Distinct.ofList entries).mapValues _

/-- The features of a profile have different keys, also where it has none. -/
theorem profileOf_distinct {part : Part} {features : Features}
    (shape : Outline.profileOf document part = .ok features) : features.Distinct := by
  unfold Outline.profileOf at shape
  split at shape
  · exact featuresOf_distinct distinct shape
  · -- A profile that is left empty has no keys.
    cases shape
    exact .empty

end Distinct

/-- In what a document says all features have different keys, and so have those of each profile. -/
theorem Holds.distinct {source : Source} {draft : Draft} (held : Holds source draft) :
    draft.features.Distinct ∧ ∀ profile ∈ draft.profiles, profile.2.Distinct := by
  obtain ⟨document, entries, read, -, told⟩ := held
  have distinct : ∀ {part entries}, document.entries? part = some entries → entries.Distinct :=
    Yaml.Document.entries_distinct read
  have features := congrArg Outline.features told
  have profiles := congrArg Outline.profiles told
  dsimp only [Outline.ofEntries, Draft.outline] at features profiles
  constructor
  · -- Where nothing is given there are no keys at all.
    cases given : (entries.get? (.text "features")).filter document.isTruthy with
    | none =>
      rw [given] at features
      rw [← Except.ok.inj features]
      exact .empty
    | some part =>
      rw [given] at features
      exact featuresOf_distinct distinct features
  · intro profile member
    have shaped : (profile.1, .ok profile.2) ∈
        draft.profiles.map fun profile => (profile.1, (Except.ok profile.2 : Shaped Features)) :=
      List.mem_map_of_mem member
    split at profiles
    · rw [← Except.ok.inj profiles] at shaped
      cases shaped
    · split at profiles
      · cases profiles
      · rw [← Except.ok.inj profiles] at shaped
        obtain ⟨entry, -, same⟩ := List.mem_map.mp shaped
        exact profileOf_distinct distinct (Prod.mk.inj same).2

/-- The features of every device have different keys. -/
theorem Holds.distinct_of_device {source : Source} {draft : Draft} (held : Holds source draft)
    {device : Device} {features : Features} (own : draft.featuresOf? device = some features) :
    features.Distinct := by
  -- The features are those of all, or of a profile.
  rcases Draft.exists_of_featuresOf? own with rfl | ⟨profile, inside, rfl⟩
  · exact held.distinct.1
  · exact held.distinct.2 profile inside

/-- The keys of every device's features are known, where the empty text is no name. -/
theorem MadeOf.known {known : List String} {draft : Draft} {config : Config}
    (made : MadeOf known draft config) (some_known : known ≠ []) (named : "" ∉ known)
    {device : Device} {features : Features} (own : draft.featuresOf? device = some features) :
    features.Known known := by
  -- The features are those of all, or of a profile, and both have been checked.
  refine Features.known_of_unknownKeys some_known named ?_
  rcases Draft.exists_of_featuresOf? own with rfl | ⟨profile, inside, rfl⟩
  · exact made.checked.1
  · exact made.checked.2 profile inside

/-- The device of a name is the first one that has it. -/
theorem findDevice_eq_ok {config : Config} {name : String} {first : Device} :
    config.findDevice name = .ok first ↔
      config.devices.find? (fun device => device.name == name) = some first := by
  -- Without such a device there is a fault.
  unfold findDevice
  cases config.devices.find? fun device => device.name == name <;> simp

/-- The device of a name is one of the devices, and it has the name. -/
theorem mem_of_findDevice {config : Config} {name : String} {first : Device}
    (found : config.findDevice name = .ok first) : first ∈ config.devices ∧ first.name = name := by
  -- The search gives one of the devices that it goes through.
  have search := findDevice_eq_ok.mp found
  exact ⟨List.mem_of_find?_eq_some search, by simpa using List.find?_some search⟩

/-- Under the name of a device there is a first device. -/
theorem exists_findDevice {config : Config} {device : Device} (inside : device ∈ config.devices) :
    ∃ first, config.findDevice device.name = .ok first := by
  -- The device itself is one that the search could find.
  simp only [findDevice_eq_ok, ← Option.isSome_iff_exists, List.find?_isSome]
  exact ⟨device, inside, by simp⟩

/-- Enabling features changes those of every device in the same way. -/
theorem featuresOf_enable (config : Config) (names : List String) (name : String) :
    (config.enable names).featuresOf name =
      (config.featuresOf name).map fun features => names.foldl Features.enable features := by
  unfold featuresOf
  -- The device is the same, and so is the profile that it names.
  cases found : config.findDevice name with
  | error fault => rw [show (config.enable names).findDevice name = _ from found]; rfl
  | ok device =>
    rw [show (config.enable names).findDevice name = _ from found]
    simp only [bind, Except.bind, enable, OrderedMap.get?_mapValues]
    split
    · rfl
    · cases config.profiles.get? (.text device.profile) <;> rfl

/-- The first device of a name has the features that are given for it, and one more enabled. -/
theorem MadeOf.featuresOf {known : List String} {draft : Draft} {config : Config}
    (made : MadeOf known draft config) {name : String} {first : Device}
    (found : config.findDevice name = .ok first) {features : Features}
    (own : draft.featuresOf? first = some features) :
    config.featuresOf name = .ok (features.enable alwaysEnabled) := by
  unfold Config.featuresOf Draft.featuresOf? at *
  simp only [found, bind, Except.bind]
  split
  · -- A device without a profile has the features of all.
    rename_i bare
    rw [if_pos bare] at own
    cases own
    exact congrArg Except.ok made.features
  · -- The profile stands under its name, with one more feature enabled.
    rename_i named
    rw [if_neg named] at own
    rw [made.profiles, OrderedMap.get?_mapValues, own]
    rfl

end RouterMetrics.Config
