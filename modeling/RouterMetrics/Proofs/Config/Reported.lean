import RouterMetrics.Proofs.Config.Loading

/-!
Which steps of loading end with a result or are refused as a configuration, and which are met by a
value that nothing can be made of.

Main statements: profiles and devices are accepted or refused exactly if what is read of them before
the first refusal has the shape for it.
-/

namespace RouterMetrics.Config

open RouterMetrics.Yaml (Document Scalar Value)

/-- Whether a fault is one of a configuration as such, and not of a value in it or of its text. -/
def Fault.isOfConfiguration : Fault → Bool
  | badPath | undecodable _ | shape _ => false
  | document fault => fault == .malformed
  | _ => true

/-- A fault of the configuration as such is one that configurations are known to have. -/
theorem Fault.isForeseen_of_isOfConfiguration {fault : Fault}
    (known : fault.isOfConfiguration = true) : fault.isForeseen = true := by
  -- The program catches every fault of a configuration, and some others that are none.
  cases fault with
  | badPath | undecodable _ | shape _ => exact absurd known Bool.false_ne_true
  | document fault =>
    obtain rfl : fault = .malformed := by simpa [isOfConfiguration] using known
    rfl
  | _ => rfl

/-- There is a result, or it is refused with a fault of the configuration as such. -/
def Reported {α : Type} (result : Except Fault α) : Prop :=
  ∀ fault, result = .error fault → fault.isOfConfiguration = true

section Steps

variable {α β : Type}

/-- A result is reported. -/
theorem reported_ok (result : α) : Reported (.ok result) := by
  intro fault failed
  cases failed

/-- Two steps in turn are reported if the first is, and the second behind what the first gives. -/
theorem reported_bind_iff {step : Except Fault α} {next : α → Except Fault β} :
    Reported (step >>= next) ↔
      Reported step ∧ ∀ given, step = .ok given → Reported (next given) := by
  -- What fails is the first step, or the second one with something that the first has given.
  unfold Reported
  simp only [bind_eq_error_iff]
  constructor
  · exact fun reported => ⟨fun fault failed => reported fault (.inl failed),
      fun given made fault failed => reported fault (.inr ⟨given, made, failed⟩)⟩
  · rintro ⟨first, later⟩ fault (failed | ⟨given, made, failed⟩)
    · exact first fault failed
    · exact later given made fault failed

/-- Where all results of a step have the same behind them, they have it if there are any. -/
theorem reported_bind_iff_of_same {step : Except Fault α} {next : α → Except Fault β} {later : Prop}
    (same : ∀ given, Reported (next given) ↔ later) :
    Reported (step >>= next) ↔ Reported step ∧ ((∃ given, step = .ok given) → later) := by
  -- The second step can only run if the first one gives anything.
  simp only [reported_bind_iff, same, forall_exists_index]

/-- What is made of a result is reported like the result. -/
theorem reported_bind_pure_iff {step : Except Fault α} {make : α → β} :
    Reported (step >>= fun given => pure (make given)) ↔ Reported step := by
  -- Making something of a result does not fail.
  rw [reported_bind_iff]
  exact and_iff_left fun given _ => reported_ok _

/-- Steps for the items of a list are reported if each is that has only good results before it. -/
theorem reported_mapM_iff {step : α → Except Fault β} {items : List α} :
    Reported (items.mapM step) ↔ ∀ before item after, items = before ++ item :: after →
      (∀ earlier ∈ before, ∃ result, step earlier = .ok result) → Reported (step item) := by
  -- The fault of the whole is that of the first item with a fault.
  unfold Reported
  simp only [mapM_eq_error_iff]
  constructor
  · exact fun reported before item after split earlier fault failed =>
      reported fault ⟨before, item, after, split, earlier, failed⟩
  · rintro reported fault ⟨before, item, after, split, earlier, failed⟩
    exact reported before item after split earlier fault failed

/-- A value that is read as something is that thing also where it is loaded. -/
theorem shaped_eq_ok_iff {reading : Shaped α} {value : α} :
    shaped reading = .ok value ↔ reading = .ok value := by
  cases reading <;> simp [shaped, Except.mapError]

/-- What cannot be read is not reported. -/
theorem reported_shaped_iff {reading : Shaped α} :
    Reported (shaped reading) ↔ ∃ value, reading = .ok value := by
  -- A fault of shape is none of the configuration as such.
  cases reading with
  | ok value => exact iff_of_true (reported_ok value) ⟨value, rfl⟩
  | error fault =>
    refine iff_of_false (fun reported => ?_) (by simp)
    exact absurd (reported (.shape fault) rfl) (by simp [Fault.isOfConfiguration])

/-- A step with what is read is reported if there is something to read, and the step then is. -/
theorem reported_shaped_bind_iff {reading : Shaped α} {next : α → Except Fault β} :
    Reported (shaped reading >>= next) ↔ ∃ value, reading = .ok value ∧ Reported (next value) := by
  -- There is at most one value that can be read.
  rw [reported_bind_iff, reported_shaped_iff]
  simp only [shaped_eq_ok_iff, exists_ok_and_iff]

/-- A fault is reported if it is one of the configuration as such. -/
theorem reported_throw_iff {fault : Fault} :
    Reported (throw fault : Except Fault α) ↔ fault.isOfConfiguration = true := by
  -- The only fault is the one that is thrown.
  refine ⟨fun reported => reported fault rfl, fun known other same => ?_⟩
  cases same
  exact known

end Steps

/-- A value has a text exactly if it can be told. -/
theorem exists_textOf_iff (value : Value) :
    (∃ text, textOf value = .ok text) ↔ ∃ text, value.text? = some text := by
  -- A value without a text is a fault.
  unfold textOf
  cases value.text? <;> simp

/-! Features and profiles. -/

/-- Whether a key is a text or bytes, which both have small letters. -/
def isWord : Scalar → Bool
  | .text _ | .bytes _ => true
  | _ => false

namespace Features

variable {known : List String} {features : Features}

/-- All keys are texts or bytes. -/
def IsLegible (features : Features) : Prop := ∀ key ∈ features.keys, isWord key = true

/-- The texts of a key can be told exactly if it is a text or bytes. -/
theorem exists_keyTexts_iff {key : Scalar} :
    (∃ texts, keyTexts key = .ok texts) ↔ isWord key = true := by
  -- Of all scalars only texts and bytes can be put into lower case.
  cases key <;> simp [keyTexts, isWord]

/-- The unknown keys can be told exactly if all keys are texts or bytes. -/
theorem exists_unknownKeys_iff (some_known : known ≠ []) :
    (∃ keys, features.unknownKeys known = .ok keys) ↔ features.IsLegible := by
  -- Every key is put into lower case, as there is something to compare it with.
  unfold unknownKeys IsLegible
  rw [if_neg (by simpa using some_known)]
  simp only [← exists_keyTexts_iff, ← exists_ok_mapM_iff]
  exact exists_ok_bind_pure_iff

/-- No key is unknown exactly if all are known, where the empty text is no name. -/
theorem unknownKeys_eq_nil_iff (some_known : known ≠ []) (named : "" ∉ known) :
    features.unknownKeys known = .ok [] ↔ features.Known known := by
  refine ⟨known_of_unknownKeys some_known named, fun keys => ?_⟩
  -- Known keys are texts, so the texts of all keys can be told, and none of them is left over.
  have legible : ∀ key ∈ features.keys, ∃ texts, keyTexts key = .ok texts := by
    intro key member
    obtain ⟨text, rfl, -⟩ := keys key member
    exact ⟨_, rfl⟩
  obtain ⟨texts, mapped⟩ := exists_mapM legible
  have registered : ∀ text ∈ texts, text.2 ∈ known := by
    intro text member
    obtain ⟨key, inside, shown⟩ := exists_of_mem_mapM mapped member
    obtain ⟨_, rfl, small⟩ := keys key inside
    cases shown
    exact small
  unfold unknownKeys
  rw [if_neg (by simpa using some_known), mapped]
  simpa [bind, Except.bind, pure, Except.pure] using registered

end Features

section Checks

variable {known : List String} (some_known : known ≠ []) (named : "" ∉ known)

include some_known named

/-- Features are accepted exactly if all of their keys are known. -/
theorem exists_checkedFeatures_iff {fault : List Problem → Except Fault Fault}
    {features : Features} :
    (∃ checked, checkedFeatures known fault features = .ok checked) ↔ features.Known known := by
  -- What is accepted has no unknown key; without one nothing is thrown.
  rw [← Features.unknownKeys_eq_nil_iff some_known named]
  constructor
  · rintro ⟨checked, passed⟩
    exact (checkedFeatures_ok passed).1
  · intro told
    exact ⟨_, by rw [checkedFeatures, told]; rfl⟩

/--
Features are accepted or refused exactly if their keys are texts or bytes, and the fault of unknown
keys can be told if there are any.
-/
theorem reported_checkedFeatures_iff {fault : List Problem → Except Fault Fault} {told : Prop}
    (telling : ∀ problems,
      Reported (fault problems >>= fun fault => (throw fault : Except Fault Features)) ↔ told)
    {features : Features} :
    Reported (checkedFeatures known fault features) ↔
      features.IsLegible ∧ (features.Known known ∨ told) := by
  rw [checkedFeatures, reported_shaped_bind_iff, ← Features.exists_unknownKeys_iff some_known,
    ← Features.unknownKeys_eq_nil_iff some_known named, ← exists_and_right]
  refine exists_congr fun keys => and_congr_right fun found => ?_
  rw [found]
  cases keys with
  | nil => exact iff_of_true (reported_ok _) (.inl rfl)
  | cons key others =>
    -- Some keys are unknown, so all depends on the fault.
    rw [or_iff_right (by simp)]
    exact telling _

/-- A profile is accepted exactly if it has its shape, and its keys are known. -/
theorem exists_profileOf_iff {name : Scalar} {shape : Shaped Features} :
    (∃ checked, profileOf known name shape = .ok checked) ↔
      ∃ features, shape = .ok features ∧ features.Known known := by
  -- The shape is read first, and its keys are checked behind that.
  rw [profileOf, exists_ok_bind_iff]
  simp only [shaped_eq_ok_iff, exists_checkedFeatures_iff some_known named]

/--
A profile is accepted or refused exactly if it has its shape, its keys are texts or bytes, and its
name can be told if one of them is unknown.
-/
theorem reported_profileOf_iff {name : Scalar} {shape : Shaped Features} :
    Reported (profileOf known name shape) ↔ ∃ features, shape = .ok features ∧
      features.IsLegible ∧ (features.Known known ∨ ∃ text, name.text? = some text) := by
  have telling : ∀ problems, Reported
      ((do return Fault.badProfile (← shaped (textOf (.scalar name))) problems) >>=
        fun fault => (throw fault : Except Fault Features)) ↔ ∃ text, name.text? = some text := by
    intro problems
    -- The fault itself is one of the configuration; only the text of the name may be missing.
    rw [bind_assoc, reported_shaped_bind_iff]
    refine Iff.trans ?_ (exists_textOf_iff (.scalar name))
    exact exists_congr fun text => and_iff_left (reported_throw_iff.mpr rfl)
  rw [profileOf, reported_shaped_bind_iff]
  simp only [reported_checkedFeatures_iff some_known named telling]

/-- Profiles are all accepted exactly if each has its shape, and its keys are known. -/
theorem exists_profilesOf_iff {profiles : List (Scalar × Shaped Features)} :
    (∃ checked, profilesOf known profiles = .ok checked) ↔
      ∀ profile ∈ profiles, ∃ features, profile.2 = .ok features ∧ features.Known known := by
  -- The profiles are checked one by one, and each can keep the whole from being accepted.
  rw [profilesOf, exists_ok_bind_pure_iff, exists_ok_mapM_iff]
  simp only [exists_ok_bind_pure_iff, exists_profileOf_iff some_known named, Prod.forall]

/-- Profiles are accepted or refused exactly if each is that stands behind accepted ones only. -/
theorem reported_profilesOf_iff {profiles : List (Scalar × Shaped Features)} :
    Reported (profilesOf known profiles) ↔
      ∀ before name shape after, profiles = before ++ (name, shape) :: after →
        (∀ earlier ∈ before, ∃ features, earlier.2 = .ok features ∧ features.Known known) →
        ∃ features, shape = .ok features ∧
          features.IsLegible ∧ (features.Known known ∨ ∃ text, name.text? = some text) := by
  rw [profilesOf, reported_bind_pure_iff, reported_mapM_iff]
  -- With each profile its name is kept, which changes neither whether it is accepted nor how.
  simp only [exists_ok_bind_pure_iff, exists_profileOf_iff some_known named, Prod.forall,
    reported_bind_pure_iff, reported_profileOf_iff some_known named]

end Checks

/-! Devices. -/

namespace Device

/-- The fields that are read as texts. -/
def textFields : List String := ["name", "address", "user", "password", "profile"]

/-- The values of all fields can be read as what they stand for. -/
structure Fields.IsReadable (fields : Fields) : Prop where
  /-- Only what holds a number with too many digits has no text. -/
  texts : ∀ name ∈ textFields, ∀ value, fields.given? name = some value →
    ∃ text, value.text? = some text
  port : ∀ value, fields "port" = some value →
    value = .null ∨ value = .text "" ∨ ∃ number, integerOf value = .ok number
  timeout : ∀ value, fields.given? "timeout" = some value →
    ∃ number, integerOf value = .ok number

variable {fields : Fields}

/-- A field has a text exactly if the value that is given for it has one. -/
theorem exists_text_iff {name : String} :
    (∃ text, fields.text name = .ok text) ↔
      ∀ value, fields.given? name = some value → ∃ text, value.text? = some text := by
  -- A field that is left out has the empty text.
  unfold Fields.text
  cases fields.given? name with
  | none => simp
  | some value => simpa using exists_textOf_iff value

/-- There is a port exactly if nothing is given for it, or a number. -/
theorem exists_port_iff :
    (∃ port, fields.port = .ok port) ↔ ∀ value, fields "port" = some value →
      value = .null ∨ value = .text "" ∨ ∃ number, integerOf value = .ok number := by
  unfold Fields.port
  split
  · rename_i missing
    simp [missing]
  · rename_i null
    simp [null, Value.null]
  · rename_i empty
    simp [empty, Value.text]
  · rename_i value notNull notEmpty given
    rw [given]
    simp only [Option.some.injEq, forall_eq']
    -- What stands for no port has been left to the other cases.
    rw [or_iff_right (show ¬value = .null from notNull),
      or_iff_right (show ¬value = .text "" from notEmpty)]
    cases integerOf value <;> simp [Except.map]

/-- There is a timeout exactly if nothing is given for it, or a number. -/
theorem exists_timeout_iff :
    (∃ timeout, fields.timeout = .ok timeout) ↔ ∀ value, fields.given? "timeout" = some value →
      ∃ number, integerOf value = .ok number := by
  -- A timeout that is left out is the usual one.
  unfold Fields.timeout
  cases fields.given? "timeout" <;> simp

/-- There is a device exactly if the values of all fields can be read. -/
theorem exists_ofFields_iff : (∃ device, ofFields fields = .ok device) ↔ fields.IsReadable := by
  constructor
  · -- The parts are read one after the other, and each of them has been read.
    rintro ⟨device, described⟩
    obtain ⟨name, named, described⟩ := ok_of_bind described
    obtain ⟨address, addressed, described⟩ := ok_of_bind described
    obtain ⟨user, used, described⟩ := ok_of_bind described
    obtain ⟨password, secured, described⟩ := ok_of_bind described
    obtain ⟨port, ported, described⟩ := ok_of_bind described
    obtain ⟨profile, profiled, described⟩ := ok_of_bind described
    obtain ⟨timeout, timed, -⟩ := ok_of_bind described
    refine ⟨?_, exists_port_iff.mp ⟨port, ported⟩, exists_timeout_iff.mp ⟨timeout, timed⟩⟩
    simp only [textFields, ← exists_text_iff, List.forall_mem_cons]
    exact ⟨⟨name, named⟩, ⟨address, addressed⟩, ⟨user, used⟩, ⟨password, secured⟩,
      ⟨profile, profiled⟩, by simp⟩
  · rintro ⟨texts, ported, timed⟩
    simp only [textFields, ← exists_text_iff, List.forall_mem_cons] at texts
    obtain ⟨⟨name, named⟩, ⟨address, addressed⟩, ⟨user, used⟩, ⟨password, secured⟩,
      ⟨profile, profiled⟩, -⟩ := texts
    obtain ⟨port, ported⟩ := exists_port_iff.mpr ported
    obtain ⟨timeout, timed⟩ := exists_timeout_iff.mpr timed
    exact ⟨_, by
      rw [ofFields, named, addressed, used, secured, ported, profiled, timed]
      rfl⟩

end Device

/-- There are no strays among the items exactly if each of them has fields. -/
theorem strayDevices_eq_nil_iff {items : List (Option Device.Fields)} :
    strayDevices items = [] ↔ ∀ item ∈ items, item.isSome = true := by
  constructor
  · -- Without strays the items are the fields that are left when strays are dropped.
    intro none item member
    rw [fields_of_strayDevices none] at member
    obtain ⟨fields, -, rfl⟩ := List.mem_map.mp member
    rfl
  · intro there
    rw [strayDevices, List.map_eq_nil_iff, List.filter_eq_nil_iff]
    rintro ⟨item, index⟩ member
    simpa [Option.isSome_iff_ne_none] using there item (List.fst_mem_of_mem_zipIdx member)

/-- Devices are accepted or refused exactly if one has no fields, or those of all can be read. -/
theorem reported_devicesOf_iff {isProfile : String → Bool} {items : List (Option Device.Fields)} :
    Reported (devicesOf isProfile items) ↔ (∀ item ∈ items, item.isSome = true) →
      ∀ fields, some fields ∈ items → fields.IsReadable := by
  rw [← strayDevices_eq_nil_iff, devicesOf]
  dsimp only
  split
  · -- All devices have fields, so all depends on whether these can be read.
    rename_i whole
    rw [reported_shaped_bind_iff, imp_iff_right (List.isEmpty_iff.mp whole)]
    have each : (∃ devices, (items.filterMap id).mapM Device.ofFields = .ok devices) ↔
        ∀ fields, some fields ∈ items → fields.IsReadable := by
      rw [exists_ok_mapM_iff]
      simp [Device.exists_ofFields_iff]
    rw [← each]
    -- What is found missing of devices that have been read is a fault of the configuration.
    refine exists_congr fun devices => and_iff_left ?_
    split
    · exact reported_ok _
    · exact reported_throw_iff.mpr rfl
  · rename_i stray
    refine iff_of_true (reported_throw_iff.mpr rfl) fun none => ?_
    exact absurd (List.isEmpty_iff.mpr none) stray

/-! Outlines. -/

/-- The devices are told, and the values of all their fields can be read if each has fields. -/
def Outline.DevicesTold (outline : Outline) : Prop :=
  ∃ items, outline.devices = .ok items ∧ ((∀ item ∈ items, item.isSome = true) →
    ∀ fields, some fields ∈ items → fields.IsReadable)

/-- The profiles are told so that they are accepted or refused, and behind accepted ones so are the
devices. -/
def Outline.ProfilesTold (known : List String) (outline : Outline) : Prop :=
  ∃ profiles, outline.profiles = .ok profiles ∧ Reported (profilesOf known profiles) ∧
    ((∀ profile ∈ profiles, ∃ features, profile.2 = .ok features ∧ features.Known known) →
      outline.DevicesTold)

/-- An outline is loaded or refused exactly if its features are told with texts or bytes for keys,
and behind known ones so is everything else. -/
theorem reported_ofOutline_iff {known : List String} (some_known : known ≠ []) (named : "" ∉ known)
    {outline : Outline} :
    Reported (ofOutline known outline) ↔
      (∃ features, outline.features = .ok features ∧ features.IsLegible) ∧
      ((∃ features, outline.features = .ok features ∧ features.Known known) →
        outline.ProfilesTold known) := by
  -- What is told last is checked last, so the steps are taken from the end.
  have devices : ∀ (features : Features) (profiles : OrderedMap Scalar Features), Reported (do
      let isProfile := fun name => profiles.contains (.text name)
      return Config.mk (← devicesOf isProfile (← shaped outline.devices)) features profiles) ↔
        outline.DevicesTold := by
    intro features profiles
    rw [reported_shaped_bind_iff]
    refine exists_congr fun items => and_congr_right fun _ => ?_
    rw [reported_bind_pure_iff, reported_devicesOf_iff]
  have profiles : ∀ features : Features, Reported (do
      let profiles ← profilesOf known (← shaped outline.profiles)
      let isProfile := fun name => profiles.contains (.text name)
      return Config.mk (← devicesOf isProfile (← shaped outline.devices)) features profiles) ↔
        outline.ProfilesTold known := by
    intro features
    rw [reported_shaped_bind_iff]
    refine exists_congr fun profiles => and_congr_right fun _ => ?_
    rw [reported_bind_iff_of_same (devices features), exists_profilesOf_iff some_known named]
  rw [ofOutline, reported_shaped_bind_iff]
  cases outline.features with
  | error fault => simp
  | ok features =>
    simp only [Except.ok.injEq, exists_eq_left']
    rw [reported_bind_iff_of_same profiles, exists_checkedFeatures_iff some_known named,
      reported_checkedFeatures_iff some_known named fun problems =>
        iff_true_intro (reported_throw_iff.mpr rfl)]
    simp only [or_true, and_true]

/-! The faults of a document that has been read. -/

/-- Where there is no result, there is a fault of the configuration as such, or a shape is wrong. -/
def IsJudged {α : Type} (result : Except Fault α) : Prop :=
  ∀ fault, result = .error fault →
    fault.isOfConfiguration = true ∨ ∃ shape, fault = .shape shape

section Judged

variable {α β : Type} {known : List String}

/-- What is reported is judged. -/
theorem Reported.isJudged {result : Except Fault α} (reported : Reported result) :
    IsJudged result :=
  fun fault failed => .inl (reported fault failed)

/-- What has a wrong shape is judged. -/
theorem isJudged_shaped {reading : Shaped α} : IsJudged (shaped reading) := by
  -- The fault is that of the shape.
  intro fault failed
  cases reading with
  | ok value => cases failed
  | error shape =>
    cases failed
    exact .inr ⟨shape, rfl⟩

/-- Two steps in turn are judged if each is. -/
theorem IsJudged.bind {step : Except Fault α} {next : α → Except Fault β} (first : IsJudged step)
    (later : ∀ given, IsJudged (next given)) : IsJudged (step >>= next) := by
  -- The fault is that of the step in which it arises.
  intro fault failed
  rcases bind_eq_error_iff.mp failed with failed | ⟨given, -, failed⟩
  · exact first fault failed
  · exact later given fault failed

/-- Steps for the items of a list are judged if each is. -/
theorem IsJudged.mapM {step : α → Except Fault β} (each : ∀ item, IsJudged (step item))
    {items : List α} : IsJudged (items.mapM step) := by
  -- The fault of the whole is that of one item.
  intro fault failed
  obtain ⟨_, item, _, -, -, failed⟩ := mapM_eq_error_iff.mp failed
  exact each item fault failed

/-- Checked features are judged if the fault of unknown keys is. -/
theorem isJudged_checkedFeatures {fault : List Problem → Except Fault Fault} {features : Features}
    (telling : ∀ problems, IsJudged (fault problems >>= fun fault =>
      (throw fault : Except Fault Features))) :
    IsJudged (checkedFeatures known fault features) := by
  -- Keys that cannot be told are a matter of shape, and unknown ones are thrown.
  refine isJudged_shaped.bind fun keys => ?_
  cases keys with
  | nil => exact (reported_ok _).isJudged
  | cons key others => exact telling _

/-- Profiles are judged. -/
theorem isJudged_profilesOf {profiles : List (Scalar × Shaped Features)} :
    IsJudged (profilesOf known profiles) := by
  -- Reading a shape, checking its keys and telling the name are each judged.
  refine .bind (.mapM fun (name, own) => ?_) fun checked => (reported_ok _).isJudged
  refine .bind (isJudged_shaped.bind fun features => ?_) fun checked => (reported_ok _).isJudged
  refine isJudged_checkedFeatures fun problems => ?_
  rw [bind_assoc]
  exact isJudged_shaped.bind fun text => (reported_throw_iff.mpr rfl).isJudged

/-- Devices are judged. -/
theorem isJudged_devicesOf {isProfile : String → Bool} {items : List (Option Device.Fields)} :
    IsJudged (devicesOf isProfile items) := by
  rw [devicesOf]
  dsimp only
  -- Entries that are no maps are thrown before any of the others is read.
  split
  · -- Of the enabled devices only the problems can be thrown.
    refine isJudged_shaped.bind fun devices => ?_
    split
    · exact (reported_ok _).isJudged
    · exact (reported_throw_iff.mpr rfl).isJudged
  · exact (reported_throw_iff.mpr rfl).isJudged

/-- Documents are judged. -/
theorem isJudged_ofDocument {document : Document} : IsJudged (ofDocument known document) := by
  unfold ofDocument
  split
  · exact (reported_throw_iff.mpr rfl).isJudged
  · -- Features, profiles and devices are first read, and then checked.
    refine isJudged_shaped.bind fun features => ?_
    refine (isJudged_checkedFeatures fun problems => (reported_throw_iff.mpr rfl).isJudged).bind
      fun checked => ?_
    refine isJudged_shaped.bind fun profiles => isJudged_profilesOf.bind fun checked => ?_
    refine isJudged_shaped.bind fun items => isJudged_devicesOf.bind fun devices => ?_
    exact (reported_ok _).isJudged
  · exact (reported_throw_iff.mpr rfl).isJudged

end Judged

end RouterMetrics.Config
