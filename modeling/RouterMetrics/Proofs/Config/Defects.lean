import RouterMetrics.Proofs.Config.Checks

/-!
Which defects of a document the rejection of its configuration tells.

A configuration is checked in turn: its features, each of its profiles, whether all its devices are maps,
and the devices. Main statement: the rejection tells all defects that the first failing check finds and
no others, so it tells all of the document exactly if these are all found by one check.
-/

namespace RouterMetrics.Config

open RouterMetrics.Yaml (Document Scalar Source)

/-- What a document says, where some of its devices may be no maps. -/
structure Sketch where
  features : Features
  profiles : List (Scalar × Features)
  devices : List (Option Device.Fields)

/-- The outline of a sketch. -/
def Sketch.outline (sketch : Sketch) : Outline where
  features := .ok sketch.features
  profiles := .ok (sketch.profiles.map fun profile => (profile.1, .ok profile.2))
  devices := .ok sketch.devices

/-- The sketch of an outline in which features and profiles have the shape for it, and there are items. -/
def Outline.sketch? (outline : Outline) : Option Sketch := do
  let profiles ← (← outline.profiles.toOption).mapM fun (name, shape) =>
    shape.toOption.map fun features => (name, features)
  return ⟨← outline.features.toOption, profiles, ← outline.devices.toOption⟩

/-- The sketch of the document in a source. -/
def sketchOf? (source : Source) : Option Sketch := do
  let document ← (Document.ofSource? source).toOption.join
  (Outline.ofEntries document (← document.entries? document.root)).sketch?

/-- Features and profiles are told by texts, and ports and timeouts can be read. -/
structure Sketch.IsRegular (sketch : Sketch) : Prop where
  features : sketch.features.HasTexts
  profiles : ∀ profile ∈ sketch.profiles,
    (∃ name, profile.1 = .text name) ∧ profile.2.HasTexts
  numbers : ∀ fields, some fields ∈ sketch.devices →
    (∃ port, fields.port = .ok port) ∧ ∃ timeout, fields.timeout = .ok timeout

/-- The other fields of all devices have texts, as all but numbers with too many digits have. -/
def Sketch.HasTexts (sketch : Sketch) : Prop :=
  ∀ fields, some fields ∈ sketch.devices →
    ∀ name ∈ Device.textFields, ∃ text, fields.text name = .ok text

/-! Defects. -/

/-- What the checks of a configuration are about, one after another. -/
inductive Check where
  | features
  | profile (name : String)
  /-- Whether all devices are maps. -/
  | mappings
  | devices
deriving DecidableEq

/-- The check of a profile with a text for its name. -/
def checkOf? : Scalar × Features → Option Check
  | (.text name, _) => some (.profile name)
  | _ => none

/-- A place in a document and what is wrong there. -/
inductive Site where
  /-- An unknown key of the features. -/
  | feature (key : String)
  /-- An unknown key of a profile. -/
  | profileFeature (profile key : String)
  /-- An item of the devices that is no map. -/
  | notMapping (position : Nat)
  /-- An item of the devices that is a map, and not disabled. -/
  | device (position : Nat) (defect : Defect)
deriving DecidableEq

/-- The check that looks at a place. -/
def Site.check : Site → Check
  | feature _ => .features
  | profileFeature profile _ => .profile profile
  | notMapping _ => .mappings
  | device _ _ => .devices

namespace Sketch

variable (known : List String) (sketch : Sketch)

/-- The profile of a sketch that has a name. -/
def HasProfile (name : String) : Prop := ∃ profile ∈ sketch.profiles, profile.1 = .text name

/-- What fields say of a device has a defect. -/
def Lacks (fields : Device.Fields) : Defect → Prop
  | .missing field => fields.text field.word = .ok ""
  | .unknownProfile name =>
      fields.text "profile" = .ok name ∧ name ≠ "" ∧ ¬ sketch.HasProfile name

/-- Something is wrong at a place of a document. -/
def Has : Site → Prop
  | .feature key => sketch.features.HasUnknown known key
  | .profileFeature name key =>
      ∃ profile ∈ sketch.profiles, profile.1 = .text name ∧ profile.2.HasUnknown known key
  | .notMapping position => sketch.devices[position]? = some none
  | .device position defect => ∃ fields, sketch.devices[position]? = some (some fields) ∧
      fields.flag "disabled" = false ∧ sketch.Lacks fields defect

/-- The checks of a document in their order. -/
def checks : List Check :=
  .features :: (sketch.profiles.filterMap checkOf? ++ [.mappings, .devices])

end Sketch

/-- A fault tells what is wrong at a place; devices are counted without those that are disabled. -/
def Fault.Tells (sketch : Sketch) (fault : Fault) : Site → Prop
  | .feature key => ∃ problems, fault = .badFeatures problems ∧ .unknownFeature key ∈ problems
  | .profileFeature name key =>
      ∃ problems, fault = .badProfile name problems ∧ .unknownFeature key ∈ problems
  | .notMapping position => ∃ problems, fault = .badDevices problems ∧ .notMapping position ∈ problems
  | .device position defect => ∃ problems fields name, fault = .badDevices problems ∧
      sketch.devices[position]? = some (some fields) ∧ fields.flag "disabled" = false ∧
      fields.text "name" = .ok name ∧
      .device ((sketch.devices.take position).countP isEnabled) name defect ∈ problems

/-- A check is the first one that finds something, and a fault tells exactly what it finds. -/
structure FirstFailing (known : List String) (sketch : Sketch) (fault : Fault) (check : Check) :
    Prop where
  /-- The checks before it find nothing. -/
  first : ∃ before after, sketch.checks = before ++ check :: after ∧
    ∀ site, sketch.Has known site → site.check ∉ before
  told : ∀ site, fault.Tells sketch site ↔ sketch.Has known site ∧ site.check = check
  found : ∃ site, sketch.Has known site ∧ site.check = check

/-! Devices. -/

section Devices

variable {known : List String} {sketch : Sketch} {isProfile : String → Bool}

/-- Fields lack what the device that they describe lacks. -/
theorem lacks_iff (profiles : ∀ name, isProfile name = true ↔ sketch.HasProfile name)
    {fields : Device.Fields} {device : Device} (described : Device.ofFields fields = .ok device)
    (defect : Defect) :
    sketch.Lacks fields defect ↔ defect ∈ device.defects isProfile := by
  obtain ⟨texts, profiled⟩ := texts_of_ofFields described
  rw [mem_defects_iff]
  cases defect with
  -- A text is missing in the fields exactly if it is empty in the device.
  | missing field => simp [Sketch.Lacks, texts field]
  -- The profile of the device is the one that its fields name.
  | unknownProfile name =>
    simp only [Sketch.Lacks, profiled, Except.ok.injEq, ← profiles, Bool.not_eq_true]

/-- The fields of regular devices describe these exactly if they have texts. -/
theorem exists_described_iff (regular : sketch.IsRegular) :
    (∃ devices, (sketch.devices.filterMap id).mapM Device.ofFields = .ok devices) ↔
      sketch.HasTexts := by
  rw [exists_ok_mapM_iff]
  simp only [List.mem_filterMap, id_eq, exists_eq_right, Device.exists_ofFields_iff]
  refine forall₂_congr fun fields member => ?_
  obtain ⟨port, timeout⟩ := regular.numbers fields member
  -- The numbers of a regular device can be read, so that only its texts are left to ask for.
  constructor
  · exact fun readable name listed => Device.exists_text_iff.mpr (readable.texts name listed)
  · exact fun texts => ⟨fun name listed => Device.exists_text_iff.mp (texts name listed),
      Device.exists_port_iff.mp port, Device.exists_timeout_iff.mp timeout⟩

end Devices

/-! The checks in turn. -/

section Checks

variable {known : List String} {sketch : Sketch}

/-- The checks of profiles are those of their names. -/
theorem mem_filterMap_checkOf? {profiles : List (Scalar × Features)} {check : Check} :
    check ∈ profiles.filterMap checkOf? ↔
      ∃ name, check = .profile name ∧ ∃ profile ∈ profiles, profile.1 = .text name := by
  rw [List.mem_filterMap]
  constructor
  · rintro ⟨⟨scalar, features⟩, member, made⟩
    -- Only a name that is a text has a check of its own.
    unfold checkOf? at made
    split at made
    · rename_i name own same
      cases same
      exact ⟨name, (Option.some.inj made).symm, _, member, rfl⟩
    · cases made
  · rintro ⟨name, rfl, ⟨_, features⟩, member, rfl⟩
    exact ⟨_, member, rfl⟩

/-- No two profiles have the same name. -/
theorem Sketch.profile_unique (distinct : (OrderedMap.mk sketch.profiles).Distinct) {name : String}
    {profile other : Scalar × Features} (inside : profile ∈ sketch.profiles)
    (inside' : other ∈ sketch.profiles) (named : profile.1 = .text name)
    (named' : other.1 = .text name) : profile = other := by
  by_contra differs
  have symmetric : Std.Symm fun profile other : Scalar × Features =>
      (profile.1 == other.1) = false := by
    refine ⟨fun profile other apart => ?_⟩
    -- Scalars are compared by what is the same for equal ones.
    have unlike : profile.1.identity ≠ other.1.identity := beq_eq_false_iff_ne.mp apart
    change (other.1.identity == profile.1.identity) = false
    exact beq_eq_false_iff_ne.mpr unlike.symm
  have apart := List.Pairwise.forall distinct inside inside' differs
  rw [named, named', Scalar.beq_text_iff.mpr rfl] at apart
  cases apart

/-- The fault of a profile tells its unknown keys. -/
theorem Fault.tells_badProfile_iff (name : String) (keys : List String) (site : Site) :
    (Fault.badProfile name (keys.map .unknownFeature)).Tells sketch site ↔
      ∃ key ∈ keys, site = .profileFeature name key := by
  cases site with
  | feature _ => simp [Tells]
  | notMapping _ => simp [Tells]
  | device _ _ => simp [Tells]
  -- The keys that are told are those under the name of the profile.
  | profileFeature other key =>
    constructor
    · rintro ⟨problems, same, inside⟩
      cases same
      exact ⟨key, by simpa using inside, rfl⟩
    · rintro ⟨told, inside, same⟩
      cases same
      exact ⟨_, rfl, List.mem_map_of_mem inside⟩

/-- Unknown keys of the features are told by the first check. -/
theorem firstFailing_features {keys : List String} (some : keys ≠ [])
    (unknown : ∀ key, key ∈ keys ↔ sketch.features.HasUnknown known key) :
    FirstFailing known sketch (.badFeatures (keys.map .unknownFeature)) .features where
  -- No check comes before this one.
  first := ⟨[], _, rfl, fun _ _ => List.not_mem_nil⟩
  told site := by cases site <;> simp [Fault.Tells, Sketch.Has, Site.check, ← unknown]
  found := by
    obtain ⟨key, inside⟩ := List.exists_mem_of_ne_nil keys some
    exact ⟨.feature key, (unknown key).mp inside, rfl⟩

/-- Unknown keys of a profile behind profiles without any are told by the check of this profile. -/
theorem firstFailing_profile (distinct : (OrderedMap.mk sketch.profiles).Distinct)
    (clean : ∀ key, ¬ sketch.features.HasUnknown known key) {before after : List (Scalar × Features)}
    {name : String} {features : Features}
    (split : sketch.profiles = before ++ (.text name, features) :: after)
    (earlier : ∀ profile ∈ before, ∀ key, ¬ profile.2.HasUnknown known key) {keys : List String}
    (some : keys ≠ []) (unknown : ∀ key, key ∈ keys ↔ features.HasUnknown known key) :
    FirstFailing known sketch (.badProfile name (keys.map .unknownFeature)) (.profile name) := by
  have own : (.text name, features) ∈ sketch.profiles := by simp [split]
  refine ⟨⟨.features :: before.filterMap checkOf?, after.filterMap checkOf? ++ [.mappings, .devices],
    by simp [Sketch.checks, split, checkOf?], ?_⟩, ?_, ?_⟩
  · intro site has inside
    rcases List.mem_cons.mp inside with same | inside
    · cases site with
      | feature key => exact clean key has
      | profileFeature _ _ | notMapping _ | device _ _ => cases same
    · obtain ⟨other, same, profile, member, named⟩ := mem_filterMap_checkOf?.mp inside
      cases site with
      | feature _ | notMapping _ | device _ _ => cases same
      | profileFeature _ key =>
        cases same
        -- The profile with an unknown key is the one of this name before.
        obtain ⟨faulty, there, called, wrong⟩ := has
        obtain rfl := Sketch.profile_unique distinct there (by simp [split, member]) called named
        exact earlier _ member key wrong
  · intro site
    rw [Fault.tells_badProfile_iff]
    constructor
    · rintro ⟨key, inside, rfl⟩
      exact ⟨⟨_, own, rfl, (unknown key).mp inside⟩, rfl⟩
    · rintro ⟨has, checked⟩
      cases site with
      | feature _ | notMapping _ | device _ _ => cases checked
      | profileFeature other key =>
        cases checked
        obtain ⟨profile, member, named, wrong⟩ := has
        obtain rfl := Sketch.profile_unique distinct member own named rfl
        exact ⟨key, (unknown key).mpr wrong, rfl⟩
  · obtain ⟨key, inside⟩ := List.exists_mem_of_ne_nil keys some
    exact ⟨.profileFeature name key, ⟨_, own, rfl, (unknown key).mp inside⟩, rfl⟩

/-- Where features and profiles have no unknown keys, only the devices can have defects. -/
theorem ofDevices_of_clean (clean : ∀ key, ¬ sketch.features.HasUnknown known key)
    (profiles : ∀ profile ∈ sketch.profiles, ∀ key, ¬ profile.2.HasUnknown known key) {site : Site}
    (has : sketch.Has known site) : site.check ∉ .features :: sketch.profiles.filterMap checkOf? := by
  cases site with
  | feature key => exact absurd has (clean key)
  | profileFeature name key =>
    obtain ⟨profile, member, -, wrong⟩ := has
    exact absurd wrong (profiles profile member key)
  | notMapping _ | device _ _ =>
    -- These belong to the checks behind.
    refine List.not_mem_cons_of_ne_of_not_mem nofun fun inside => ?_
    obtain ⟨_, same, -⟩ := mem_filterMap_checkOf?.mp inside
    cases same

/-- Items that are no maps are all told by one check. -/
theorem firstFailing_mappings (clean : ∀ key, ¬ sketch.features.HasUnknown known key)
    (profiles : ∀ profile ∈ sketch.profiles, ∀ key, ¬ profile.2.HasUnknown known key)
    (strays : strayDevices sketch.devices ≠ []) :
    FirstFailing known sketch
      (.badDevices ((strayDevices sketch.devices).map .notMapping)) .mappings where
  -- Features and profiles are clean, and the devices come behind.
  first := ⟨_, [.devices], by simp [Sketch.checks],
    fun site has => ofDevices_of_clean clean profiles has⟩
  told site := by
    cases site <;> simp [Fault.Tells, Sketch.Has, Site.check, mem_strayDevices_iff]
  found := by
    obtain ⟨position, inside⟩ := List.exists_mem_of_ne_nil _ strays
    exact ⟨.notMapping position, mem_strayDevices_iff.mp inside, rfl⟩

/-- The problems of devices tell the defects of all devices that are not disabled. -/
theorem tells_devices_iff {isProfile : String → Bool}
    (profiled : ∀ name, isProfile name = true ↔ sketch.HasProfile name) {devices : List Device}
    (described : (sketch.devices.filterMap id).mapM Device.ofFields = .ok devices)
    (position : Nat) (defect : Defect) :
    (Fault.badDevices (problemsOf isProfile (devices.filter fun device => !device.disabled))).Tells
        sketch (.device position defect) ↔
      sketch.Has known (.device position defect) := by
  constructor
  · rintro ⟨problems, fields, name, same, there, active, named, inside⟩
    cases same
    obtain ⟨index, device, own, same, counted, lacks⟩ := mem_problemsOf_iff.mp inside
    cases same
    -- The device at this index is the one that the fields at the position describe.
    obtain ⟨described', read⟩ := exists_ok_of_mem_mapM described
      (List.mem_filterMap.mpr ⟨some fields, List.mem_of_getElem? there, rfl⟩)
    have counted' := (getElem?_enabled_iff described).mpr
      ⟨position, fields, there, active, read, rfl⟩
    obtain rfl := Option.some.inj (counted.symm.trans counted')
    exact ⟨fields, there, active, (lacks_iff profiled read _).mpr lacks⟩
  · rintro ⟨fields, there, active, lacks⟩
    obtain ⟨device, read⟩ := exists_ok_of_mem_mapM described
      (List.mem_filterMap.mpr ⟨some fields, List.mem_of_getElem? there, rfl⟩)
    refine ⟨_, fields, device.name, rfl, there, active, (texts_of_ofFields read).1 .name,
      mem_problemsOf_iff.mpr ⟨_, device, defect, rfl, ?_, (lacks_iff profiled read defect).mp lacks⟩⟩
    exact (getElem?_enabled_iff described).mpr ⟨position, fields, there, active, read, rfl⟩

/-- The defects of devices are all told by one check, where all items are maps. -/
theorem firstFailing_devices {isProfile : String → Bool}
    (profiled : ∀ name, isProfile name = true ↔ sketch.HasProfile name)
    (clean : ∀ key, ¬ sketch.features.HasUnknown known key)
    (profiles : ∀ profile ∈ sketch.profiles, ∀ key, ¬ profile.2.HasUnknown known key)
    (maps : strayDevices sketch.devices = []) {devices : List Device}
    (described : (sketch.devices.filterMap id).mapM Device.ofFields = .ok devices)
    (some : problemsOf isProfile (devices.filter fun device => !device.disabled) ≠ []) :
    FirstFailing known sketch
      (.badDevices (problemsOf isProfile (devices.filter fun device => !device.disabled)))
      .devices where
  first := by
    refine ⟨.features :: (sketch.profiles.filterMap checkOf? ++ [.mappings]), [],
      by simp [Sketch.checks], fun site has => ?_⟩
    rw [← List.cons_append, List.mem_append, not_or]
    refine ⟨ofDevices_of_clean clean profiles has, fun inside => ?_⟩
    -- All items are maps.
    cases site with
    | notMapping position => exact absurd (mem_strayDevices_iff.mpr has) (by simp [maps])
    | feature _ | profileFeature _ _ | device _ _ => cases List.mem_singleton.mp inside
  told site := by
    cases site with
    | feature _ => simp [Fault.Tells, Site.check]
    | profileFeature _ _ => simp [Fault.Tells, Site.check]
    | notMapping _ =>
      refine iff_of_false ?_ (by simp [Site.check])
      rintro ⟨problems, same, inside⟩
      cases same
      obtain ⟨_, _, _, same, -⟩ := mem_problemsOf_iff.mp inside
      cases same
    | device position defect =>
      exact (tells_devices_iff profiled described position defect).trans (and_iff_left rfl).symm
  found := by
    obtain ⟨problem, inside⟩ := List.exists_mem_of_ne_nil _ some
    obtain ⟨index, device, defect, rfl, counted, lacks⟩ := mem_problemsOf_iff.mp inside
    obtain ⟨position, fields, there, active, read, -⟩ := (getElem?_enabled_iff described).mp counted
    exact ⟨.device position defect,
      ⟨fields, there, active, (lacks_iff profiled read defect).mpr lacks⟩, rfl⟩

/-- What comes of a sketch: a configuration, a fault of a shape, or the fault of the first failing check. -/
inductive Verdict (known : List String) (sketch : Sketch) : Except Fault Config → Prop
  | accepted {config : Config} (whole : ∀ site, ¬ sketch.Has known site) (texts : sketch.HasTexts) :
      Verdict known sketch (.ok config)
  | misshapen {shape : ShapeFault} (texts : ¬ sketch.HasTexts) :
      Verdict known sketch (.error (.shape shape))
  | refused {fault : Fault} {check : Check} (failing : FirstFailing known sketch fault check) :
      Verdict known sketch (.error fault)

/-- Behind features and profiles without unknown keys, the devices decide. -/
theorem verdict_devicesOf {isProfile : String → Bool} (regular : sketch.IsRegular)
    (profiled : ∀ name, isProfile name = true ↔ sketch.HasProfile name)
    (clean : ∀ key, ¬ sketch.features.HasUnknown known key)
    (profiles : ∀ profile ∈ sketch.profiles, ∀ key, ¬ profile.2.HasUnknown known key)
    (make : List Device → Config) :
    Verdict known sketch (devicesOf isProfile sketch.devices >>= fun devices => pure (make devices)) := by
  by_cases maps : strayDevices sketch.devices = []
  · cases described : (sketch.devices.filterMap id).mapM Device.ofFields with
    | error shape =>
      rw [devicesOf_undescribed maps described]
      refine .misshapen fun texts => ?_
      obtain ⟨devices, read⟩ := (exists_described_iff regular).mpr texts
      cases described.symm.trans read
    | ok devices =>
      rw [devicesOf_described maps described]
      split
      · rename_i none
        refine .accepted (fun site has => ?_) ((exists_described_iff regular).mp ⟨devices, described⟩)
        -- Every check has found nothing.
        cases site with
        | feature key => exact clean key has
        | profileFeature name key =>
          obtain ⟨profile, member, -, wrong⟩ := has
          exact profiles profile member key wrong
        | notMapping position => exact absurd (mem_strayDevices_iff.mpr has) (by simp [maps])
        | device position defect =>
          obtain ⟨problems, _, _, same, -, -, -, inside⟩ :=
            (tells_devices_iff profiled described position defect).mpr has
          cases same
          exact absurd inside (by simp [none])
      · rename_i some
        exact .refused (firstFailing_devices profiled clean profiles maps described some)
  · rw [devicesOf_strays maps]
    exact .refused (firstFailing_mappings clean profiles maps)

/-- The checks of a document come to a verdict, one after another. -/
theorem verdict_ofOutline (regular : sketch.IsRegular)
    (distinct : (OrderedMap.mk sketch.profiles).Distinct) :
    Verdict known sketch (ofOutline known sketch.outline) := by
  -- Everything has its shape, so that only the checks are left.
  change Verdict known sketch (do
    let features ← checkedFeatures known (fun problems => .ok (.badFeatures problems)) sketch.features
    let profiles ← profilesOf known
      (sketch.profiles.map fun profile => (profile.1, (.ok profile.2 : Shaped Features)))
    let isProfile := fun name => profiles.contains (.text name)
    return ⟨← devicesOf isProfile sketch.devices, features, profiles⟩)
  rcases checkedFeatures_texts known regular.features
      fun problems => .ok (.badFeatures problems) with ⟨clean, passed⟩ | ⟨keys, some, unknown, failed⟩
  · rw [passed]
    rcases profilesOf_texts known regular.profiles with
      ⟨own, checked, passed, names⟩ |
        ⟨before, name, features, after, keys, split, earlier, some, unknown, failed⟩
    · simp only [Bind.bind, Except.bind, passed]
      exact verdict_devicesOf regular names clean own _
    · simp only [Bind.bind, Except.bind, failed]
      exact .refused (firstFailing_profile distinct clean split earlier some unknown)
  · rw [failed]
    exact .refused (firstFailing_features some unknown)

end Checks

/-! Documents of profiles only. -/

/-- A document of two profiles with an unknown key each. -/
def badProfilesSource : Source :=
  ⟨"profiles:\n  edge:\n    bgp: true\n  core:\n    ospf: true\n".toList, none⟩

/-- The document without the unknown key of the first profile. -/
def repairedSource : Source :=
  ⟨"profiles:\n  edge:\n  core:\n    ospf: true\n".toList, none⟩

/-- A document with these profiles and their keys, and nothing else. -/
structure OnlyProfiles (source : Source) (profiles : List (String × List String)) (sketch : Sketch) :
    Prop where
  shows : sketchOf? source = some sketch
  bare : sketch.features.keys = []
  named : List.Forall₂ (fun own profile => own.1 = .text profile.1 ∧ own.2.keys = profile.2.map .text)
    sketch.profiles profiles
  deviceless : sketch.devices = []

/-- Scalars that are the same as texts are these texts. -/
theorem eq_texts_of_identity {keys : List Scalar} {texts : List String}
    (same : keys.map Scalar.identity = texts.map .text) : keys = texts.map .text := by
  -- Only a text is the same as a text.
  rw [← List.forall₂_eq_eq_eq, List.forall₂_map_right_iff] at *
  refine (List.forall₂_map_left_iff.mp same).imp fun key text same => ?_
  exact Scalar.identity_eq_text_iff.mp same

namespace OnlyProfiles

variable {source : Source} {profiles : List (String × List String)} {sketch : Sketch}

/-- What is computed of a document tells that it has nothing but some profiles. -/
theorem of_shown (source : Source) (profiles : List (String × List String))
    (shown : (sketchOf? source).map (fun sketch => (sketch.features.keys.length,
      sketch.profiles.map fun profile => (profile.1.identity, profile.2.keys.map Scalar.identity),
      sketch.devices.length)) =
        some (0, profiles.map fun profile => (.text profile.1, profile.2.map .text), 0)) :
    ∃ sketch, OnlyProfiles source profiles sketch := by
  obtain ⟨sketch, there, same⟩ := Option.map_eq_some_iff.mp shown
  simp only [Prod.mk.injEq, List.length_eq_zero_iff] at same
  obtain ⟨bare, named, deviceless⟩ := same
  -- The profiles are compared one by one, by name and keys.
  rw [← List.forall₂_eq_eq_eq, List.forall₂_map_right_iff, List.forall₂_map_left_iff] at named
  refine ⟨sketch, there, bare, named.imp fun own profile same => ?_, deviceless⟩
  obtain ⟨name, keys⟩ := Prod.mk.inj same
  exact ⟨Scalar.identity_eq_text_iff.mp name, eq_texts_of_identity keys⟩

/-- Such a document is regular. -/
theorem isRegular (only : OnlyProfiles source profiles sketch) : sketch.IsRegular where
  -- There are neither features nor devices, and the names and keys of the profiles are texts.
  features key member := by simp [only.bare] at member
  numbers fields member := by simp [only.deviceless] at member
  profiles profile member := by
    obtain ⟨⟨name, words⟩, -, named, keys⟩ := exists_of_forall₂ only.named.flip member
    refine ⟨⟨name, named⟩, fun key inside => ?_⟩
    obtain ⟨text, -, same⟩ := List.mem_map.mp (keys ▸ inside)
    exact ⟨text, same.symm⟩

/-- Its defects are the unknown keys of its profiles. -/
theorem has_iff (only : OnlyProfiles source profiles sketch) {known : List String} {site : Site} :
    sketch.Has known site ↔ ∃ name words key, site = .profileFeature name key ∧
      (name, words) ∈ profiles ∧ key ∈ words ∧ IsUnknown known key := by
  cases site with
  | feature key => simp [Sketch.Has, Features.HasUnknown, only.bare]
  | notMapping position => simp [Sketch.Has, only.deviceless]
  | device position defect => simp [Sketch.Has, only.deviceless]
  -- Each profile of the sketch is one of those that are listed, and the other way round.
  | profileFeature name key =>
    constructor
    · rintro ⟨profile, member, named, inside, unknown⟩
      obtain ⟨⟨other, words⟩, listed, named', keys⟩ := exists_of_forall₂ only.named.flip member
      obtain rfl := Scalar.text.inj (named'.symm.trans named)
      exact ⟨other, words, key, rfl, listed, by simpa [keys] using inside, unknown⟩
    · rintro ⟨_, words, _, same, listed, inside, unknown⟩
      cases same
      obtain ⟨profile, member, named, keys⟩ := exists_of_forall₂ only.named listed
      exact ⟨profile, member, named, by simpa [keys] using inside, unknown⟩

end OnlyProfiles

/-! Sources. -/

/-- An outline with a sketch is the outline of this sketch. -/
theorem Outline.eq_of_sketch? {outline : Outline} {sketch : Sketch}
    (sketched : outline.sketch? = some sketch) : outline = sketch.outline := by
  obtain ⟨features, profiles, devices⟩ := outline
  simp only [sketch?, Option.bind_eq_bind, Option.bind_eq_some_iff, Option.pure_def,
    Option.some.injEq] at sketched
  obtain ⟨shapes, told, given, mapped, own, featured, items, listed, rfl⟩ := sketched
  obtain rfl := ok_of_toOption told
  obtain rfl := ok_of_toOption featured
  obtain rfl := ok_of_toOption listed
  have same : shapes = given.map fun profile => (profile.1, .ok profile.2) := by
    rw [mapM_eq_some_iff] at mapped
    clear told
    -- Each profile has its shape, and keeps its name.
    induction shapes generalizing given with
    | nil => simp_all
    | cons shape shapes ih =>
      obtain ⟨profile, others, rfl, own, rest⟩ := List.map_eq_cons_iff.mp mapped.symm
      obtain ⟨features, there, rfl⟩ := Option.map_eq_some_iff.mp own.symm
      rw [ih others rest.symm, List.map_cons, ← ok_of_toOption there]
  rw [same]
  rfl

section Sources

variable {known : List String} {source : Source} {sketch : Sketch}

/-- A source with a sketch holds a document that tells of it. -/
theorem exists_of_sketchOf? (shows : sketchOf? source = some sketch) :
    ∃ document entries, Document.ofSource? source = .ok (some document) ∧
      document.entries? document.root = some entries ∧
      Outline.ofEntries document entries = sketch.outline := by
  -- A sketch is made of the entries of a document.
  simp only [sketchOf?, Option.bind_eq_bind, Option.bind_eq_some_iff] at shows
  obtain ⟨document, read, entries, there, sketched⟩ := shows
  exact ⟨document, entries, ok_of_toOption (Option.join_eq_some_iff.mp read), there,
    Outline.eq_of_sketch? sketched⟩

/-- No two profiles of a document have equal names. -/
theorem distinct_of_sketchOf? (shows : sketchOf? source = some sketch) :
    (OrderedMap.mk sketch.profiles).Distinct := by
  obtain ⟨document, entries, read, -, told⟩ := exists_of_sketchOf? shows
  have profiles := congrArg Outline.profiles told
  dsimp only [Outline.ofEntries, Sketch.outline] at profiles
  -- The names are the keys of a map, or there are none.
  have names : (sketch.profiles.map Prod.fst).Pairwise fun name other => (name == other) = false := by
    have same : (sketch.profiles.map fun profile => (profile.1, (.ok profile.2 : Shaped Features))).map
        Prod.fst = sketch.profiles.map Prod.fst := by simp [Function.comp_def]
    rw [← same]
    split at profiles
    · rw [← Except.ok.inj profiles]
      exact .nil
    · split at profiles
      · cases profiles
      · rename_i inside there
        rw [← Except.ok.inj profiles]
        have keys := Yaml.Document.entries_distinct read there
        simpa [OrderedMap.Distinct, List.pairwise_map] using keys
  exact List.pairwise_map.mp names

/-- What is loaded from a source is the configuration of the outline of its document. -/
theorem loadSource_of_entries (known : List String) {document : Document}
    {entries : Yaml.PartEntries} (read : Document.ofSource? source = .ok (some document))
    (there : document.entries? document.root = some entries) :
    loadSource known source = ofOutline known (.ofEntries document entries) := by
  rw [loadSource, read]
  change ofDocument known document = _
  unfold ofDocument
  split
  · -- A document that holds nothing has no entries.
    rename_i null
    rw [null] at there
    cases there
  · rename_i own found _
    rw [Option.some.inj (there.symm.trans found)]
  · rename_i missing _
    cases missing.symm.trans there

/-- What is loaded from a source comes to a verdict about its sketch. -/
theorem verdict_loadSource (known : List String) (shows : sketchOf? source = some sketch)
    (regular : sketch.IsRegular) :
    Verdict known sketch (loadSource known source) := by
  -- Loading is what is done with the outline of the document.
  obtain ⟨document, entries, read, there, told⟩ := exists_of_sketchOf? shows
  rw [loadSource_of_entries known read there, told]
  exact verdict_ofOutline regular (distinct_of_sketchOf? shows)

/-- A regular document is accepted exactly if it has no defect, and all its texts can be told. -/
theorem exists_loadSource_iff (shows : sketchOf? source = some sketch) (regular : sketch.IsRegular) :
    (∃ config, loadSource known source = .ok config) ↔
      (∀ site, ¬ sketch.Has known site) ∧ sketch.HasTexts := by
  have verdict := verdict_loadSource known shows regular
  generalize loadSource known source = result at verdict
  -- Each verdict tells whether there is a configuration, and why there is none.
  cases verdict with
  | accepted whole texts => exact iff_of_true ⟨_, rfl⟩ ⟨whole, texts⟩
  | misshapen texts => exact iff_of_false nofun fun accepted => texts accepted.2
  | refused failing =>
    obtain ⟨site, has, -⟩ := failing.found
    exact iff_of_false nofun fun accepted => accepted.1 site has

/--
The rejection of a document tells all defects that the first failing check finds, and no other ones.

So it tells all defects exactly if one check finds them all. A document whose defects are those that
have not been told is accepted exactly if there are none, and if its other texts can be told.
-/
theorem rejection_tells_one_check {fault : Fault} (shows : sketchOf? source = some sketch)
    (regular : sketch.IsRegular) (rejected : loadSource known source = .error fault)
    (some : fault.problems ≠ []) :
    (∃ check, FirstFailing known sketch fault check) ∧
      ((∀ site, sketch.Has known site → fault.Tells sketch site) ↔
        ∀ site other, sketch.Has known site → sketch.Has known other → site.check = other.check) ∧
      ∀ source' sketch', sketchOf? source' = Option.some sketch' → sketch'.IsRegular →
        (∀ site, sketch'.Has known site ↔ sketch.Has known site ∧ ¬ fault.Tells sketch site) →
        ((∃ config, loadSource known source' = .ok config) ↔
          (∀ site, sketch.Has known site → fault.Tells sketch site) ∧ sketch'.HasTexts) := by
  -- A fault with problems is that of a check.
  have failing : ∃ check, FirstFailing known sketch fault check := by
    have verdict := verdict_loadSource known shows regular
    rw [rejected] at verdict
    cases verdict with
    | misshapen texts => exact absurd rfl some
    | refused failing => exact ⟨_, failing⟩
  refine ⟨failing, ?_, fun source' sketch' shows' regular' repaired => ?_⟩
  · -- What is told is all that this check finds, so that nothing is left where there is no other.
    obtain ⟨check, failing⟩ := failing
    constructor
    · intro all site other has has'
      rw [((failing.told site).mp (all site has)).2, ((failing.told other).mp (all other has')).2]
    · intro same site has
      obtain ⟨found, wrong, checked⟩ := failing.found
      exact (failing.told site).mpr ⟨has, (same site found has wrong).trans checked⟩
  · -- What is left after the repair are the defects that were not told.
    rw [exists_loadSource_iff shows' regular']
    simp only [repaired, not_and, not_not]

end Sources

/-- Of two profiles with an unknown key each only the first is told, and repairing it is not enough. -/
theorem second_profile_not_told :
    ∃ sketch fault, sketchOf? badProfilesSource = some sketch ∧ sketch.IsRegular ∧
      loadSource ["interface"] badProfilesSource = .error fault ∧
      fault.problems = [.unknownFeature "bgp"] ∧
      sketch.Has ["interface"] (.profileFeature "core" "ospf") ∧
      ¬ fault.Tells sketch (.profileFeature "core" "ospf") ∧
      ¬ ∃ config, loadSource ["interface"] repairedSource = .ok config := by
  obtain ⟨sketch, only⟩ :=
    OnlyProfiles.of_shown badProfilesSource [("edge", ["bgp"]), ("core", ["ospf"])] (by decide +kernel)
  obtain ⟨sketch', only'⟩ :=
    OnlyProfiles.of_shown repairedSource [("edge", []), ("core", ["ospf"])] (by decide +kernel)
  have refused : (loadSource ["interface"] badProfilesSource).map (fun _ => ()) =
      .error (.badProfile "edge" [.unknownFeature "bgp"]) := by decide +kernel
  have unknown : IsUnknown ["interface"] "bgp" ∧ IsUnknown ["interface"] "ospf" := by
    unfold IsUnknown
    decide +kernel
  have second : sketch.Has ["interface"] (.profileFeature "core" "ospf") :=
    only.has_iff.mpr ⟨"core", ["ospf"], "ospf", rfl, by simp, by simp, unknown.2⟩
  have told : ∀ site, (Fault.badProfile "edge" [.unknownFeature "bgp"]).Tells sketch site ↔
      site = .profileFeature "edge" "bgp" := by
    intro site
    simpa using Fault.tells_badProfile_iff "edge" ["bgp"] site
  -- The other profile is as it was, so its key is a defect that has not been told.
  obtain ⟨-, -, repair⟩ := rejection_tells_one_check only.shows only.isRegular (error_of_map refused)
    (by simp [Fault.problems])
  have accepted := repair repairedSource sketch' only'.shows only'.isRegular fun site => by
    rw [only.has_iff, only'.has_iff, told]
    constructor
    · rintro ⟨name, words, key, rfl, listed, inside, wrong⟩
      -- The first profile has no keys any more.
      obtain ⟨rfl, rfl⟩ : name = "core" ∧ words = ["ospf"] := by
        rcases List.mem_pair.mp listed with same | same
        · cases same
          cases inside
        · exact Prod.mk.inj same
      exact ⟨⟨_, _, _, rfl, by simp, inside, wrong⟩, by simp⟩
    · rintro ⟨⟨name, words, key, rfl, listed, inside, wrong⟩, other⟩
      rcases List.mem_pair.mp listed with same | same
      · -- The only key of the first profile is what was told.
        cases same
        exact absurd (by rw [List.mem_singleton.mp inside]) other
      · cases same
        exact ⟨_, _, _, rfl, by simp, inside, wrong⟩
  refine ⟨sketch, _, only.shows, only.isRegular, error_of_map refused, rfl, second, by simp [told], ?_⟩
  rw [accepted]
  exact fun all => absurd ((told _).mp (all.1 _ second)) (by simp)

end RouterMetrics.Config
