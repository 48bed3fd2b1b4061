import RouterMetrics.Proofs.Config.Defects

/-!
Documents with and without their disabled devices.

Main statement: a document has the same outcome without its disabled devices, unless there is one that
cannot be read while all others can and nothing else is refused: then the document is refused for the
device that does not count.
-/

namespace RouterMetrics.Config

open RouterMetrics.Yaml (Document Scalar Source Value)

/-! Documents without their disabled devices. -/

/-- The fields of a device that are read. -/
def Device.fieldNames : List String :=
  textFields ++ ["port", "timeout", "tls", "insecure", "disabled", "ipv6_disabled"]

/-- The same is said about two devices. -/
def Device.Fields.Agree (fields others : Device.Fields) : Prop :=
  ∀ name ∈ Device.fieldNames, fields name = others name

/-- The outline of the document in a source. -/
def outlineOf? (source : Source) : Option Outline := do
  let document ← (Document.ofSource? source).toOption.join
  return .ofEntries document (← document.entries? document.root)

/-- The fields of devices that are not disabled. -/
def enabledFields (items : List Device.Fields) : List Device.Fields :=
  items.filter fun fields => !fields.flag "disabled"

/-- A document of devices, and the same document without those that are disabled. -/
structure Pruned (source source' : Source) (outline : Outline) (items : List Device.Fields) :
    Prop where
  shows : outlineOf? source = some outline
  devices : outline.devices = .ok (items.map some)
  kept : ∃ others, List.Forall₂ Device.Fields.Agree (enabledFields items) others ∧
    outlineOf? source' = some { outline with devices := .ok (others.map some) }

/-- The same configuration, or faults with the same problems. -/
def SameOutcome : Except Fault Config → Except Fault Config → Prop
  | .ok config, .ok other => config = other
  | .error fault, .error other => fault.problems = other.problems
  | _, _ => False

/-- An outcome is the same as itself. -/
theorem SameOutcome.refl (outcome : Except Fault Config) : SameOutcome outcome outcome := by
  cases outcome <;> rfl

/-- Everything but the devices is accepted. -/
def Outline.AcceptsRest (known : List String) (outline : Outline) : Prop :=
  ∃ config, ofOutline known { outline with devices := .ok [] } = .ok config

/-- A disabled device cannot be read, and all others can. -/
def SpoiltByDisabled (items : List Device.Fields) : Prop :=
  (∃ fields ∈ items, fields.flag "disabled" = true ∧ ¬ fields.IsReadable) ∧
    ∀ fields ∈ items, fields.flag "disabled" = false → fields.IsReadable

/-! Reading devices. -/

section Devices

variable {items others : List Device.Fields} {isProfile : String → Bool}

/-- The same device is made of what agrees. -/
theorem ofFields_congr {fields others : Device.Fields} (agree : fields.Agree others) :
    Device.ofFields fields = Device.ofFields others := by
  -- A device is made of its known fields, and of nothing else.
  simp only [Device.Fields.Agree, Device.fieldNames, Device.textFields, List.cons_append,
    List.nil_append, List.forall_mem_cons] at agree
  obtain ⟨name, address, user, password, profile, port, timeout, tls, insecure, disabled, ipv6, -⟩ :=
    agree
  simp only [Device.ofFields, Device.Fields.text, Device.Fields.flag, Device.Fields.port,
    Device.Fields.timeout, Device.Fields.given?, name, address, user, password, profile, port, timeout,
    tls, insecure, disabled, ipv6]

/-- The same devices are made of lists that agree. -/
theorem mapM_ofFields_congr (agree : List.Forall₂ Device.Fields.Agree items others) :
    items.mapM Device.ofFields = others.mapM Device.ofFields := by
  -- The induction is on the pairs: each pair gives one device twice.
  induction agree with
  | nil => rfl
  | cons first _ ih => rw [List.mapM_cons, List.mapM_cons, ofFields_congr first, ih]

/-- Where all devices can be read, so can those that are not disabled. -/
theorem mapM_enabledFields_ok {devices : List Device}
    (described : items.mapM Device.ofFields = .ok devices) :
    (enabledFields items).mapM Device.ofFields =
      .ok (devices.filter fun device => !device.disabled) := by
  induction items generalizing devices with
  | nil =>
    cases described
    rfl
  | cons fields items ih =>
    rw [List.mapM_cons] at described
    obtain ⟨device, read, described⟩ := ok_of_bind described
    obtain ⟨rest, later, described⟩ := ok_of_bind described
    cases described
    have own := ofFields_disabled read
    have behind := ih later
    unfold enabledFields at behind ⊢
    -- The fields and the device say the same about being disabled.
    cases disabled : fields.flag "disabled" with
    | true => simpa [disabled, own] using behind
    | false =>
      rw [List.filter_cons_of_pos (by simp [disabled]), List.filter_cons_of_pos (by simp [own, disabled]),
        List.mapM_cons, read, behind]
      rfl

/-- Where no disabled device is unreadable, the first unreadable one is the same without them. -/
theorem mapM_enabledFields_error {shape : ShapeFault}
    (readable : ∀ fields ∈ items, fields.flag "disabled" = true → fields.IsReadable)
    (failed : items.mapM Device.ofFields = .error shape) :
    (enabledFields items).mapM Device.ofFields = .error shape := by
  obtain ⟨before, fields, after, rfl, earlier, own⟩ := mapM_eq_error_iff.mp failed
  -- What cannot be read is enabled, so that it stays where the disabled ones are dropped.
  have enabled : fields.flag "disabled" = false := by
    by_contra disabled
    obtain ⟨device, read⟩ :=
      Device.exists_ofFields_iff.mpr (readable fields (by simp) (by simpa using disabled))
    cases own.symm.trans read
  refine mapM_eq_error_iff.mpr ⟨enabledFields before, fields, enabledFields after, ?_, ?_, own⟩
  · simp [enabledFields, enabled]
  · exact fun other member => earlier other (List.mem_of_mem_filter member)

/-- Devices that are all maps are refused for the first that cannot be read, or for all problems. -/
theorem devicesOf_maps (isProfile : String → Bool) (items : List Device.Fields) :
    devicesOf isProfile (items.map some) =
      match items.mapM Device.ofFields with
      | .error shape => .error (.shape shape)
      | .ok devices =>
          let enabled := devices.filter fun device => !device.disabled
          if problemsOf isProfile enabled = [] then .ok enabled
          else .error (.badDevices (problemsOf isProfile enabled)) := by
  -- Nothing strays among maps, so that the devices are read, and their problems are found.
  have maps : strayDevices (items.map some) = [] :=
    strayDevices_eq_nil_iff.mpr (by simp)
  have same : (items.map some).filterMap id = items := by simp [List.filterMap_map]
  cases described : items.mapM Device.ofFields with
  | error shape => exact devicesOf_undescribed maps (by rwa [same])
  | ok devices => exact devicesOf_described maps (by rwa [same])

/-- Disabled devices that can be read make no difference. -/
theorem devicesOf_enabledFields
    (readable : ∀ fields ∈ items, fields.flag "disabled" = true → fields.IsReadable) :
    devicesOf isProfile ((enabledFields items).map some) = devicesOf isProfile (items.map some) := by
  rw [devicesOf_maps, devicesOf_maps]
  cases described : items.mapM Device.ofFields with
  -- The first fault is that of an enabled device.
  | error shape => rw [mapM_enabledFields_error readable described]
  -- The problems are those of enabled devices in both cases.
  | ok devices =>
    rw [mapM_enabledFields_ok described]
    simp [List.filter_filter]

/-- Devices that cannot all be read are refused without problems. -/
theorem devicesOf_unreadable (isProfile : String → Bool) {fields : Device.Fields}
    (member : fields ∈ items) (unreadable : ¬ fields.IsReadable) :
    ∃ shape, devicesOf isProfile (items.map some) = .error (.shape shape) := by
  rw [devicesOf_maps]
  cases described : items.mapM Device.ofFields with
  | error shape => exact ⟨shape, rfl⟩
  -- All devices would have been read.
  | ok devices =>
    exact absurd (Device.exists_ofFields_iff.mp (exists_ok_of_mem_mapM described member)) unreadable

/-- Devices that can all be read are accepted, or refused with problems. -/
theorem devicesOf_readable (isProfile : String → Bool)
    (readable : ∀ fields ∈ items, fields.IsReadable) :
    (∃ devices, devicesOf isProfile (items.map some) = .ok devices) ∨
      ∃ problems, problems ≠ [] ∧
        devicesOf isProfile (items.map some) = .error (.badDevices problems) := by
  obtain ⟨devices, described⟩ :=
    exists_mapM fun fields member => Device.exists_ofFields_iff.mpr (readable fields member)
  rw [devicesOf_maps, described]
  dsimp only
  -- What is left is either free of problems or refused with them.
  split
  · exact .inl ⟨_, rfl⟩
  · rename_i some
    exact .inr ⟨_, some, rfl⟩

/-- The outcome of devices is the same without disabled ones unless it is spoilt by one of them. -/
theorem sameOutcome_devicesOf_iff (isProfile : String → Bool) (make : List Device → Config) :
    SameOutcome (devicesOf isProfile (items.map some) >>= fun devices => pure (make devices))
        (devicesOf isProfile ((enabledFields items).map some) >>= fun devices =>
          pure (make devices)) ↔
      ¬ SpoiltByDisabled items := by
  by_cases unreadable :
      ∃ fields ∈ items, fields.flag "disabled" = true ∧ ¬ fields.IsReadable
  · obtain ⟨fields, member, disabled, own⟩ := unreadable
    obtain ⟨shape, refused⟩ := devicesOf_unreadable isProfile member own
    rw [refused]
    by_cases others : ∀ fields ∈ items, fields.flag "disabled" = false → fields.IsReadable
    · -- Without the disabled devices the document has another outcome than a fault of its shape.
      refine iff_of_false ?_ (not_not.mpr ⟨⟨fields, member, disabled, own⟩, others⟩)
      have kept : ∀ fields ∈ enabledFields items, fields.IsReadable := by
        intro fields inside
        obtain ⟨member, enabled⟩ := List.mem_filter.mp inside
        exact others fields member (by simpa using enabled)
      rcases devicesOf_readable isProfile kept with ⟨devices, accepted⟩ | ⟨problems, some, refused⟩
      · rw [accepted]
        exact id
      · rw [refused]
        exact some.symm
    · -- Both are refused for what cannot be read.
      refine iff_of_true ?_ fun spoilt => others spoilt.2
      push Not at others
      obtain ⟨other, inside, enabled, stray⟩ := others
      have kept : other ∈ enabledFields items := List.mem_filter.mpr ⟨inside, by simp [enabled]⟩
      obtain ⟨shape', refused'⟩ := devicesOf_unreadable isProfile kept stray
      rw [refused']
      rfl
  · refine iff_of_true ?_ fun spoilt => unreadable spoilt.1
    push Not at unreadable
    rw [devicesOf_enabledFields unreadable]
    exact .refl _

end Devices

/-! Outlines. -/

/-- What is checked of an outline before its devices. -/
def Outline.rest (known : List String) (outline : Outline) :
    Except Fault (Features × OrderedMap Scalar Features) := do
  let features ← shaped outline.features
  let features ← checkedFeatures known (fun problems => .ok (.badFeatures problems)) features
  let profiles ← profilesOf known (← shaped outline.profiles)
  return (features, profiles)

/-- The devices are checked behind the rest. -/
theorem ofOutline_devices (known : List String) (outline : Outline)
    (items : List (Option Device.Fields)) :
    ofOutline known { outline with devices := .ok items } =
      (outline.rest known >>= fun (features, profiles) =>
        devicesOf (fun name => profiles.contains (.text name)) items >>= fun devices =>
          pure ⟨devices, features, profiles⟩) := by
  -- The devices stand in the last step, and the steps before do not look at them.
  unfold ofOutline Outline.rest
  simp only [bind_assoc, pure_bind, shaped, Except.mapError]
  rfl

/-- Everything but the devices is accepted exactly if the rest is. -/
theorem acceptsRest_iff {known : List String} {outline : Outline} :
    outline.AcceptsRest known ↔ ∃ rest, outline.rest known = .ok rest := by
  -- Without any devices nothing can fail behind the rest.
  unfold Outline.AcceptsRest
  rw [ofOutline_devices, exists_ok_bind_iff]
  refine exists_congr fun rest => and_iff_left ⟨⟨[], rest.1, rest.2⟩, rfl⟩

section Outlines

variable {known : List String} {outline : Outline} {items : List Device.Fields}

/-- Without disabled devices that can be read, the outcome of an outline is the same. -/
theorem ofOutline_enabledFields
    (readable : ∀ fields ∈ items, fields.flag "disabled" = true → fields.IsReadable) :
    ofOutline known { outline with devices := .ok ((enabledFields items).map some) } =
      ofOutline known { outline with devices := .ok (items.map some) } := by
  -- The devices are checked behind the rest, and this does not tell them apart.
  simp only [ofOutline_devices, devicesOf_enabledFields readable]

/-- The outcome without disabled devices is the same unless it is spoilt by one of them. -/
theorem sameOutcome_ofOutline_iff (known : List String) (outline : Outline)
    (items : List Device.Fields) :
    SameOutcome (ofOutline known { outline with devices := .ok (items.map some) })
        (ofOutline known { outline with devices := .ok ((enabledFields items).map some) }) ↔
      ¬ (outline.AcceptsRest known ∧ SpoiltByDisabled items) := by
  rw [ofOutline_devices, ofOutline_devices, acceptsRest_iff]
  cases checked : outline.rest known with
  -- Where the rest is refused, the devices are not looked at.
  | error fault => simp [SameOutcome, Bind.bind, Except.bind]
  | ok rest =>
    -- Where the rest is accepted, the devices alone decide.
    rw [and_iff_right ⟨rest, rfl⟩]
    exact sameOutcome_devicesOf_iff _ fun devices => ⟨devices, rest.1, rest.2⟩

end Outlines

/-! Documents. -/

section Documents

variable {known : List String} {source source' : Source} {outline : Outline}
  {items : List Device.Fields}

/-- Where there is an outline there is a document. -/
theorem exists_document_of_outlineOf? (shows : outlineOf? source = some outline) :
    ∃ document, Document.ofSource? source = .ok (some document) := by
  -- An outline is made of a document.
  simp only [outlineOf?, Option.bind_eq_bind, Option.bind_eq_some_iff] at shows
  obtain ⟨document, read, -⟩ := shows
  exact ⟨document, ok_of_toOption (Option.join_eq_some_iff.mp read)⟩

/-- What is loaded from a source is the configuration of its outline. -/
theorem loadSource_of_outlineOf? (known : List String) (shows : outlineOf? source = some outline) :
    loadSource known source = ofOutline known outline := by
  -- The outline is what loading makes of the entries of the document.
  simp only [outlineOf?, Option.bind_eq_bind, Option.bind_eq_some_iff] at shows
  obtain ⟨document, read, entries, there, told⟩ := shows
  cases told
  exact loadSource_of_entries known (ok_of_toOption (Option.join_eq_some_iff.mp read)) there

/--
A document has the same outcome without its disabled devices, whatever else is said about them, as long
as they can be read.

The same configuration comes of both documents, or faults with the same problems, unless everything but
the devices is accepted, all enabled devices can be read, and some disabled one cannot.
-/
theorem disabled_devices_dropped_iff (pruned : Pruned source source' outline items) :
    ((∀ fields ∈ items, fields.flag "disabled" = true → fields.IsReadable) →
        loadSource known source = loadSource known source') ∧
      (SameOutcome (loadSource known source) (loadSource known source') ↔
        ¬ (outline.AcceptsRest known ∧ SpoiltByDisabled items)) := by
  obtain ⟨shows, devices, others, agree, shows'⟩ := pruned
  have whole : outline = { outline with devices := .ok (items.map some) } := by rw [← devices]
  -- Devices that agree in their fields are checked alike.
  have same : ofOutline known { outline with devices := .ok (others.map some) } =
      ofOutline known { outline with devices := .ok ((enabledFields items).map some) } := by
    simp only [ofOutline_devices, devicesOf_maps, mapM_ofFields_congr agree]
  rw [loadSource_of_outlineOf? known shows, loadSource_of_outlineOf? known shows', same]
  constructor
  · intro readable
    rw [ofOutline_enabledFields readable, ← whole]
  · -- The outline decides, as both sources are loaded from theirs.
    have decided := sameOutcome_ofOutline_iff known outline items
    rwa [← whole] at decided

end Documents

/-! Documents of devices only. -/

/-- A document of two devices: the second one is disabled, and its port is no number. -/
def disabledSource : Source :=
  ⟨("devices:\n- \x7bname: gw1, address: 10.0.0.1, user: u, password: p\x7d\n" ++
    "- \x7bname: old, disabled: true, port: abc\x7d\n").toList, none⟩

/-- The document without the disabled device. -/
def enabledSource : Source :=
  ⟨"devices:\n- \x7bname: gw1, address: 10.0.0.1, user: u, password: p\x7d\n".toList, none⟩

/-- The text that a value is. -/
def plainText? : Value → Option String
  | .scalar (.text text) => some text
  | _ => none

/-- A value with a plain text is this text. -/
theorem eq_of_plainText? {value : Value} {text : String} (plain : plainText? value = some text) :
    value = .text text := by
  -- Only a text has a plain text.
  unfold plainText? at plain
  split at plain
  · cases plain
    rfl
  · cases plain

/-- What is computed of a device: the texts of its fields, if it is disabled, and if it can be read. -/
structure Device.Shown where
  texts : List (Option (Option String))
  isDisabled : Bool
  isReadable : Bool
deriving DecidableEq

/-- What is computed of the fields of a device. -/
def Device.Fields.shown (fields : Device.Fields) : Device.Shown where
  texts := fieldNames.map fun name => (fields name).map plainText?
  isDisabled := fields.flag "disabled"
  isReadable := (Device.ofFields fields).toOption.isSome

/-- What is computed of an outline: how many features and profiles there are, and its devices. -/
def Outline.shown (outline : Outline) :
    Shaped Nat × Shaped Nat × Shaped (List (Option Device.Shown)) :=
  (outline.features.map fun features => features.keys.length, outline.profiles.map List.length,
    outline.devices.map fun items => items.map fun item => item.map Device.Fields.shown)

/-- A device can be read exactly if it is computed to be readable. -/
theorem isReadable_shown {fields : Device.Fields} :
    fields.shown.isReadable = true ↔ fields.IsReadable := by
  -- What is shown is whether the device comes to be read.
  rw [← Device.exists_ofFields_iff]
  change (Device.ofFields fields).toOption.isSome = true ↔ _
  cases Device.ofFields fields <;> simp [Except.toOption]

/-- A field that is shown to be a text is this text, and one that is shown to be missing is missing. -/
theorem eq_of_map_plainText? {value? : Option Value} {text? : Option String}
    (shown : value?.map plainText? = text?.map some) : value? = text?.map Value.text := by
  cases text? with
  | none => simpa using shown
  -- A text is shown for a value with a plain text only.
  | some text =>
    obtain ⟨value, rfl, plain⟩ := Option.map_eq_some_iff.mp shown
    rw [eq_of_plainText? plain]
    rfl

/-- Fields that are shown to be the same texts agree. -/
theorem agree_of_shown {names : List String} {fields others : Device.Fields}
    {texts : List (Option String)}
    (own : names.map (fun name => (fields name).map plainText?) = texts.map (Option.map some))
    (same : names.map (fun name => (others name).map plainText?) = texts.map (Option.map some)) :
    ∀ name ∈ names, fields name = others name := by
  -- Each side has exactly the texts that are shown.
  have known : ∀ {fields : Device.Fields},
      names.map (fun name => (fields name).map plainText?) = texts.map (Option.map some) →
        names.map fields = texts.map (Option.map Value.text) := by
    intro fields shown
    rw [← List.forall₂_eq_eq_eq, List.forall₂_map_left_iff, List.forall₂_map_right_iff] at shown ⊢
    exact shown.imp fun name text? => eq_of_map_plainText?
  exact List.map_inj_left.mp ((known own).trans (known same).symm)

/-- Where something is made of all items, they are all there. -/
theorem exists_of_map_eq_map_some {α β : Type} {make : α → β} {items : List (Option α)}
    {results : List β} (same : items.map (Option.map make) = results.map some) :
    ∃ kept : List α, items = kept.map some ∧ kept.map make = results := by
  -- The induction is on the items, none of which is missing.
  induction items generalizing results with
  | nil => exact ⟨[], rfl, by simpa using same⟩
  | cons item items ih =>
    obtain ⟨result, others, rfl, own, behind⟩ := List.map_eq_cons_iff.mp same.symm
    obtain ⟨given, rfl, rfl⟩ := Option.map_eq_some_iff.mp own.symm
    obtain ⟨kept, rfl, rfl⟩ := ih behind.symm
    exact ⟨given :: kept, rfl, rfl⟩

/-- Features, profiles and devices of a document are known by what is computed of it. -/
theorem exists_devices_of_shown (source : Source) (shown : List Device.Shown)
    (computed : (outlineOf? source).map Outline.shown = some (.ok 0, .ok 0, .ok (shown.map some))) :
    ∃ items : List Device.Fields, outlineOf? source = some ⟨.ok .empty, .ok [], .ok (items.map some)⟩ ∧
      items.map Device.Fields.shown = shown := by
  obtain ⟨⟨features, profiles, devices⟩, shows, same⟩ := Option.map_eq_some_iff.mp computed
  simp only [Outline.shown, Prod.mk.injEq] at same
  obtain ⟨features', profiles', devices'⟩ := same
  cases features with
  | error fault => cases features'
  | ok features =>
    cases profiles with
    | error fault => cases profiles'
    | ok profiles =>
      cases devices with
      | error fault => cases devices'
      | ok items =>
        -- Features and profiles are shown by their number, which is zero.
        obtain ⟨entries⟩ := features
        obtain rfl : entries = [] :=
          List.map_eq_nil_iff.mp (List.length_eq_zero_iff.mp (Except.ok.inj features'))
        obtain rfl : profiles = [] := List.length_eq_zero_iff.mp (Except.ok.inj profiles')
        obtain ⟨kept, rfl, told⟩ := exists_of_map_eq_map_some (Except.ok.inj devices')
        exact ⟨kept, shows, told⟩

/-- A disabled device whose port is no number keeps the other one from being loaded. -/
theorem unreadable_disabled_device :
    ∃ outline items, Pruned disabledSource enabledSource outline items ∧
      outline.AcceptsRest ["interface"] ∧ SpoiltByDisabled items ∧
      loadSource ["interface"] disabledSource =
        .error (.shape (.badInteger (.malformed 10 "abc"))) ∧
      (∃ config, loadSource ["interface"] enabledSource = .ok config) ∧
      ¬ SameOutcome (loadSource ["interface"] disabledSource)
        (loadSource ["interface"] enabledSource) := by
  let texts := [some "gw1", some "10.0.0.1", some "u", some "p", none, none, none, none, none, none,
    none]
  -- Both outlines are computed once; all else is told from what they show.
  obtain ⟨items, shows, known⟩ := exists_devices_of_shown disabledSource
    [⟨texts.map (Option.map some), false, true⟩,
      ⟨[some (some "old"), none, none, none, none, some (some "abc"), none, none, none, some none, none],
        true, false⟩]
    (by decide +kernel)
  obtain ⟨others, shows', known'⟩ := exists_devices_of_shown enabledSource
    [⟨texts.map (Option.map some), false, true⟩] (by decide +kernel)
  obtain ⟨first, rest, rfl, firstShown, restShown⟩ := List.map_eq_cons_iff.mp known
  obtain ⟨second, rest, rfl, secondShown, restShown⟩ := List.map_eq_cons_iff.mp restShown
  obtain rfl := List.map_eq_nil_iff.mp restShown
  obtain ⟨alone, rest, rfl, aloneShown, restShown⟩ := List.map_eq_cons_iff.mp known'
  obtain rfl := List.map_eq_nil_iff.mp restShown
  have enabled : first.flag "disabled" = false := congrArg Device.Shown.isDisabled firstShown
  have disabled : second.flag "disabled" = true := congrArg Device.Shown.isDisabled secondShown
  have readable : first.IsReadable :=
    isReadable_shown.mp (congrArg Device.Shown.isReadable firstShown)
  have unreadable : ¬ second.IsReadable := by
    rw [← isReadable_shown, secondShown]
    exact Bool.false_ne_true
  have agree : first.Agree alone := agree_of_shown (congrArg Device.Shown.texts firstShown)
    (congrArg Device.Shown.texts aloneShown)
  have pruned : Pruned disabledSource enabledSource
      ⟨.ok .empty, .ok [], .ok ([first, second].map some)⟩ [first, second] := by
    refine ⟨shows, rfl, [alone], ?_, shows'⟩
    simpa [enabledFields, enabled, disabled] using agree
  -- The second device is spoilt, and the first one is not.
  have spoilt : SpoiltByDisabled [first, second] := by
    refine ⟨⟨second, by simp, disabled, unreadable⟩, fun fields member active => ?_⟩
    rcases List.mem_pair.mp member with rfl | rfl
    · exact readable
    · cases disabled.symm.trans active
  have accepts : Outline.AcceptsRest ["interface"]
      ⟨.ok .empty, .ok [], .ok ([first, second].map some)⟩ := ⟨_, rfl⟩
  refine ⟨_, _, pruned, accepts, spoilt, ?_, ?_, ?_⟩
  · have refused : (loadSource ["interface"] disabledSource).map (fun _ => ()) =
        .error (.shape (.badInteger (.malformed 10 "abc"))) := by decide +kernel
    exact error_of_map refused
  · have loaded : (loadSource ["interface"] enabledSource).toOption.isSome = true := by
      decide +kernel
    obtain ⟨config, there⟩ := Option.isSome_iff_exists.mp loaded
    exact ⟨config, ok_of_toOption there⟩
  · -- The theorem tells that the outcomes differ.
    exact mt (disabled_devices_dropped_iff pruned).2.mp (not_not.mpr ⟨accepts, spoilt⟩)

end RouterMetrics.Config
