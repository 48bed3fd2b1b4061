import RouterMetrics.Proofs.Config.Reported

/-!
What each check of a configuration finds: unknown keys of features, items that are no maps, and defects
of the devices that are not disabled.
-/

namespace RouterMetrics.Config

open RouterMetrics.Yaml (Scalar)

/-! Unknown keys. -/

/-- All keys are texts. -/
def Features.HasTexts (features : Features) : Prop :=
  ∀ key ∈ features.keys, ∃ text, key = .text text

/-- A key is unknown if it is not, in small letters, one of the names, where there are any. -/
def IsUnknown (known : List String) (key : String) : Prop :=
  known ≠ [] ∧ Text.lowercase key ∉ known

/-- An unknown key is among those of some features. -/
def Features.HasUnknown (known : List String) (features : Features) (key : String) : Prop :=
  .text key ∈ features.keys ∧ IsUnknown known key

section Features

variable {known : List String} {features : Features}

/-- Of keys that are texts the unknown ones can be told. -/
theorem Features.exists_unknownKeys (known : List String) (texts : features.HasTexts) :
    ∃ keys, features.unknownKeys known = .ok keys ∧
      ∀ key, key ∈ keys ↔ features.HasUnknown known key := by
  unfold unknownKeys HasUnknown IsUnknown
  by_cases none : known = []
  · exact ⟨[], by simp [none, pure, Except.pure], by simp [none]⟩
  · -- Each key is compared in small letters, and told as it is written.
    have legible : ∀ key ∈ features.keys, ∃ text, keyTexts key = .ok text := by
      intro key member
      obtain ⟨text, rfl⟩ := texts key member
      exact ⟨_, rfl⟩
    obtain ⟨pairs, mapped⟩ := exists_mapM legible
    refine ⟨_, by rw [if_neg (by simpa using none), mapped]; rfl, fun key => ?_⟩
    simp only [List.mem_map, List.mem_filter, Bool.not_eq_true', ← Bool.not_eq_true,
      List.contains_iff_mem]
    constructor
    · rintro ⟨pair, ⟨inside, unknown⟩, rfl⟩
      obtain ⟨scalar, member, shown⟩ := exists_of_mem_mapM mapped inside
      obtain ⟨text, rfl⟩ := texts scalar member
      cases shown
      exact ⟨member, none, unknown⟩
    · rintro ⟨member, -, unknown⟩
      obtain ⟨pair, inside, shown⟩ := exists_of_forall₂ (forall₂_of_mapM mapped).flip member
      cases shown
      exact ⟨_, ⟨inside, unknown⟩, rfl⟩

/-- Features with text keys pass their check, or the fault of all their unknown keys is raised. -/
theorem checkedFeatures_texts (known : List String) (texts : features.HasTexts)
    (fault : List Problem → Except Fault Fault) :
    ((∀ key, ¬ features.HasUnknown known key) ∧
        checkedFeatures known fault features = .ok (features.enable alwaysEnabled)) ∨
      ∃ keys, keys ≠ [] ∧ (∀ key, key ∈ keys ↔ features.HasUnknown known key) ∧
        checkedFeatures known fault features =
          (fault (keys.map .unknownFeature) >>= fun fault => throw fault) := by
  obtain ⟨keys, told, unknown⟩ := Features.exists_unknownKeys known texts
  unfold checkedFeatures
  rw [told]
  cases keys with
  -- Without unknown keys the features pass; else all of these are raised at once.
  | nil => exact .inl ⟨fun key => by simp [← unknown], rfl⟩
  | cons key others => exact .inr ⟨key :: others, List.cons_ne_nil _ _, unknown, rfl⟩

end Features

/-! Profiles. -/

section Profiles

variable {known : List String}

/-- A profile passes its check, or the fault of all its unknown keys is raised under its name. -/
theorem profileOf_texts (known : List String) (name : String) {features : Features} (texts : features.HasTexts) :
    ((∀ key, ¬ features.HasUnknown known key) ∧
        profileOf known (.text name) (.ok features) = .ok (features.enable alwaysEnabled)) ∨
      ∃ keys, keys ≠ [] ∧ (∀ key, key ∈ keys ↔ features.HasUnknown known key) ∧
        profileOf known (.text name) (.ok features) =
          .error (.badProfile name (keys.map .unknownFeature)) :=
  checkedFeatures_texts known texts fun problems => .ok (.badProfile name problems)

/-- Profiles all pass their checks and keep their names, or the first that fails is told. -/
theorem profilesOf_texts (known : List String) {profiles : List (Scalar × Features)}
    (regular : ∀ profile ∈ profiles, (∃ name, profile.1 = .text name) ∧ profile.2.HasTexts) :
    let shapes := profiles.map fun profile => (profile.1, (.ok profile.2 : Shaped Features))
    ((∀ profile ∈ profiles, ∀ key, ¬ profile.2.HasUnknown known key) ∧
        ∃ checked, profilesOf known shapes = .ok checked ∧ ∀ name : String,
          checked.contains (.text name) = true ↔ ∃ profile ∈ profiles, profile.1 = .text name) ∨
      ∃ before name features after keys, profiles = before ++ (.text name, features) :: after ∧
        (∀ profile ∈ before, ∀ key, ¬ profile.2.HasUnknown known key) ∧
        keys ≠ [] ∧ (∀ key, key ∈ keys ↔ features.HasUnknown known key) ∧
        profilesOf known shapes = .error (.badProfile name (keys.map .unknownFeature)) := by
  intro shapes
  have accepted : ∀ profile ∈ profiles,
      (∃ checked, profileOf known profile.1 (.ok profile.2) = .ok checked) →
        ∀ key, ¬ profile.2.HasUnknown known key := by
    rintro ⟨scalar, features⟩ member ⟨checked, passed⟩
    obtain ⟨⟨name, rfl⟩, texts⟩ := regular _ member
    rcases profileOf_texts known name texts with ⟨none, -⟩ | ⟨keys, -, -, failed⟩
    · exact none
    · cases failed.symm.trans passed
  cases result : profilesOf known shapes with
  | ok checked =>
    refine .inl ⟨fun profile member => ?_, checked, rfl, fun name => ?_⟩
    · -- Profiles are accepted as a whole only if each is.
      obtain ⟨pairs, mapped, -⟩ := ok_of_bind result
      obtain ⟨pair, passed⟩ := exists_ok_of_mem_mapM mapped (List.mem_map_of_mem member)
      obtain ⟨own, passed, -⟩ := ok_of_bind passed
      exact accepted profile member ⟨own, passed⟩
    · obtain ⟨given, same, -, rfl⟩ := profilesOf_ok result
      obtain rfl : given = profiles := List.map_injective_iff.mpr
        (fun profile other same => by simpa [Prod.ext_iff] using same) same.symm
      rw [OrderedMap.contains_eq_isSome, OrderedMap.get?_mapValues, Option.isSome_map,
        ← OrderedMap.contains_eq_isSome, OrderedMap.contains_iff_mem_keys fun _ => Scalar.beq_text_iff,
        OrderedMap.mem_keys_ofList_iff fun _ => Scalar.beq_text_iff, List.mem_map]
  | error fault =>
    refine .inr ?_
    rcases bind_eq_error_iff.mp result with failed | ⟨_, -, impossible⟩
    · obtain ⟨before, shape, after, split, earlier, failed⟩ := mapM_eq_error_iff.mp failed
      obtain ⟨first, rest, rfl, rfl, others⟩ := List.map_eq_append_iff.mp split
      obtain ⟨⟨scalar, features⟩, later, rfl, rfl, -⟩ := List.map_eq_cons_iff.mp others
      obtain ⟨⟨name, rfl⟩, texts⟩ := regular (scalar, features) (by simp)
      rcases bind_eq_error_iff.mp failed with failed | ⟨_, -, impossible⟩
      · rcases profileOf_texts known name texts with ⟨-, passed⟩ | ⟨keys, some, unknown, own⟩
        · cases passed.symm.trans failed
        · refine ⟨first, name, features, later, keys, rfl, fun profile member => ?_, some, unknown, ?_⟩
          · refine accepted profile (List.mem_append_left _ member) ?_
            obtain ⟨pair, passed⟩ := earlier _ (List.mem_map_of_mem member)
            obtain ⟨checked, passed, -⟩ := ok_of_bind passed
            exact ⟨checked, passed⟩
          · rw [← Except.error.inj (own.symm.trans failed)]
      · cases impossible
    · cases impossible

end Profiles

/-! Devices. -/

/-- An item of the devices is a map and not disabled. -/
def isEnabled (item : Option Device.Fields) : Bool :=
  item.any fun fields => !fields.flag "disabled"

/-- A device has a defect exactly if what it needs is empty, or its profile is none of those known. -/
theorem mem_defects_iff {isProfile : String → Bool} {device : Device} {defect : Defect} :
    defect ∈ device.defects isProfile ↔
      match defect with
      | .missing field => device.field field = ""
      | .unknownProfile name => device.profile = name ∧ name ≠ "" ∧ isProfile name = false := by
  have listed : ∀ field, field ∈ Field.all := by
    intro field
    cases field <;> simp [Field.all]
  unfold Device.defects
  dsimp only
  split
  · -- The profile is known, or none is given.
    rename_i profiled
    cases defect with
    | missing field => simp [listed]
    | unknownProfile name =>
      simp only [List.mem_map, reduceCtorEq, and_false, exists_false, false_iff]
      rintro ⟨rfl, named, unknown⟩
      simp [named, unknown] at profiled
  · rename_i stray
    simp only [Bool.or_eq_true, String.isEmpty_iff, not_or, Bool.not_eq_true] at stray
    cases defect with
    | missing field => simp [listed]
    | unknownProfile name =>
      simp only [List.mem_append, List.mem_map, reduceCtorEq, and_false, exists_false, false_or,
        List.mem_singleton, Defect.unknownProfile.injEq]
      constructor
      · rintro rfl
        exact ⟨rfl, stray⟩
      · exact fun same => same.1.symm

/-- A device is described by the texts of its fields. -/
theorem texts_of_ofFields {fields : Device.Fields} {device : Device}
    (described : Device.ofFields fields = .ok device) :
    (∀ field : Field, fields.text field.word = .ok (device.field field)) ∧
      fields.text "profile" = .ok device.profile := by
  -- The fields are read one after another, and none of them has failed.
  obtain ⟨name, named, described⟩ := ok_of_bind described
  obtain ⟨address, addressed, described⟩ := ok_of_bind described
  obtain ⟨user, used, described⟩ := ok_of_bind described
  obtain ⟨password, secured, described⟩ := ok_of_bind described
  obtain ⟨port, -, described⟩ := ok_of_bind described
  obtain ⟨profile, profiled, described⟩ := ok_of_bind described
  obtain ⟨timeout, -, described⟩ := ok_of_bind described
  cases described
  refine ⟨fun field => ?_, profiled⟩
  cases field with
  | name => exact named
  | address => exact addressed
  | user => exact used
  | password => exact secured

section Devices

variable {isProfile : String → Bool}

/-- A stray stands at each position where there are no fields. -/
theorem mem_strayDevices_iff {items : List (Option Device.Fields)} {position : Nat} :
    position ∈ strayDevices items ↔ items[position]? = some none := by
  simp [strayDevices, List.mem_filter, List.mem_zipIdx_iff_getElem?]

/-- A problem of devices is a defect of the device with its index. -/
theorem mem_problemsOf_iff {devices : List Device} {problem : Problem} :
    problem ∈ problemsOf isProfile devices ↔ ∃ index device defect,
      problem = .device index device.name defect ∧ devices[index]? = some device ∧
        defect ∈ device.defects isProfile := by
  -- The index of a device is its position.
  simp only [problemsOf, List.mem_flatMap, List.mem_map, Prod.exists, List.mem_zipIdx_iff_getElem?]
  constructor
  · rintro ⟨device, index, there, defect, inside, rfl⟩
    exact ⟨index, device, defect, rfl, there, inside⟩
  · rintro ⟨index, device, defect, rfl, there, inside⟩
    exact ⟨device, index, there, defect, inside, rfl⟩

/-- The device that an item describes, unless it is disabled. -/
def enabledDevice? (item : Option Device.Fields) : Option Device :=
  item.bind fun fields => (Device.ofFields fields).toOption.filter fun device => !device.disabled

/-- The devices that are not disabled are counted in the order of their maps. -/
theorem getElem?_enabled_iff {items : List (Option Device.Fields)} {devices : List Device}
    (described : (items.filterMap id).mapM Device.ofFields = .ok devices) {index : Nat}
    {device : Device} :
    (devices.filter fun device => !device.disabled)[index]? = some device ↔
      ∃ position fields, items[position]? = some (some fields) ∧ fields.flag "disabled" = false ∧
        Device.ofFields fields = .ok device ∧ (items.take position).countP isEnabled = index := by
  have whole : (devices.filter fun device => !device.disabled) = items.filterMap enabledDevice? := by
    rw [filterMap_of_mapM described, List.filter_filterMap, List.filterMap_filterMap]
    rfl
  -- An item that is a map describes a device, which is disabled if the map says so.
  have enabled : ∀ item ∈ items, (enabledDevice? item).isSome = isEnabled item := by
    intro item member
    cases item with
    | none => rfl
    | some fields =>
      obtain ⟨own, read⟩ := exists_ok_of_mem_mapM described
        (List.mem_filterMap.mpr ⟨some fields, member, rfl⟩)
      simp only [enabledDevice?, isEnabled, Option.bind_some, read, Except.toOption,
        Option.any_some, ← ofFields_disabled read]
      cases active : own.disabled <;> simp [Option.filter, active]
  rw [whole, getElem?_filterMap_iff]
  refine exists_congr fun position => ?_
  rw [List.countP_congr fun item member => by rw [enabled item (List.mem_of_mem_take member)]]
  constructor
  · rintro ⟨item, there, made, behind⟩
    cases item with
    | none => cases made
    | some fields =>
      obtain ⟨read, active⟩ : Device.ofFields fields = .ok device ∧ device.disabled = false := by
        obtain ⟨own, active⟩ := Option.filter_eq_some_iff.mp made
        exact ⟨ok_of_toOption own, by simpa using active⟩
      exact ⟨fields, there, by rw [← ofFields_disabled read, active], read, behind⟩
  · rintro ⟨fields, there, active, read, behind⟩
    refine ⟨some fields, there, ?_, behind⟩
    simp [enabledDevice?, read, Except.toOption, Option.filter, ofFields_disabled read, active]

/-- Items that are no maps are a fault, which tells where they all are. -/
theorem devicesOf_strays {items : List (Option Device.Fields)} (strays : strayDevices items ≠ []) :
    devicesOf isProfile items = .error (.badDevices ((strayDevices items).map .notMapping)) := by
  -- The strays are looked at before any device is read.
  unfold devicesOf
  dsimp only
  rw [if_neg (by simpa using strays)]
  rfl

/-- Maps that describe no devices are a fault of their shape. -/
theorem devicesOf_undescribed {items : List (Option Device.Fields)} {shape : ShapeFault}
    (maps : strayDevices items = [])
    (failed : (items.filterMap id).mapM Device.ofFields = .error shape) :
    devicesOf isProfile items = .error (.shape shape) := by
  -- Without strays the maps are read, and the first that cannot be is the fault.
  unfold devicesOf
  dsimp only
  rw [if_pos (by simpa using maps), failed]
  rfl

/-- Devices that are described are accepted or refused for the problems of all that are not disabled. -/
theorem devicesOf_described {items : List (Option Device.Fields)} {devices : List Device}
    (maps : strayDevices items = [])
    (described : (items.filterMap id).mapM Device.ofFields = .ok devices) :
    let enabled := devices.filter fun device => !device.disabled
    devicesOf isProfile items =
      if problemsOf isProfile enabled = [] then .ok enabled
      else .error (.badDevices (problemsOf isProfile enabled)) := by
  intro enabled
  unfold devicesOf
  dsimp only
  rw [if_pos (by simpa using maps), described]
  -- The devices are read, and what is left to decide is whether there are problems.
  by_cases none : problemsOf isProfile enabled = []
  · simp [enabled, none, shaped, Except.mapError, Bind.bind, Except.bind, Pure.pure, Except.pure]
  · simp [enabled, none, shaped, Except.mapError, Bind.bind, Except.bind, throw, throwThe,
      MonadExceptOf.throw]

end Devices

end RouterMetrics.Config
