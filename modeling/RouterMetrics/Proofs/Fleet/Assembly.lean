import RouterMetrics.Proofs.Config.Loading
import RouterMetrics.Proofs.Service

/-!
How a fleet is put together from a document.

Features are looked up by the name of a device, and collectors by keys that are compared in small
letters but stored as they are written.
Main statements: every document that is loaded gives a fleet, in which each device has the
collectors of its own features if the names of the devices are different.
Where two devices have one name, both have the collectors of the first.
Where a collector is enabled under two spellings, a device has it twice.
-/

namespace RouterMetrics.Fleet

open RouterMetrics.Config (Device Draft Features Field Holds MadeOf alwaysEnabled)
open RouterMetrics.Yaml (Source)

/-- There are collectors, and all of their names are in small letters, none of them empty. -/
theorem names_lowercase : Collector.names ≠ [] ∧ "" ∉ Collector.names ∧
    ∀ name ∈ Collector.names, Text.lowercase name = name := by decide +kernel

/-- The collector that is always enabled is registered. -/
theorem alwaysEnabled_registered : alwaysEnabled ∈ Collector.names := by decide +kernel

/-- Under the name of a collector it is assigned itself. -/
theorem assignmentOf_registered {name : String} (registered : name ∈ Collector.names) :
    ∃ assignment, assignmentOf name = .ok assignment := by
  obtain ⟨collector, member, named⟩ := List.mem_map.mp registered
  have small : collector.name = Text.lowercase name := by
    rw [names_lowercase.2.2 name registered, named]
  unfold assignmentOf Collector.find?
  -- The search is by small letters, and a registered name has no others.
  cases search : Collector.all.find? fun collector => collector.name == Text.lowercase name with
  | none => exact absurd (List.find?_eq_none.mp search collector member) (by simp [small])
  | some found => exact ⟨_, rfl⟩

/-- Assigned collectors stand under the names for which they were looked up. -/
theorem assigned_names {names : List String} {assignments : List Assignment}
    (assigned : names.mapM assignmentOf = .ok assignments) :
    assignments.map Assignment.name = names := by
  -- Each assignment keeps the name for which it was made.
  have same : List.Forall₂ (· = ·) names (assignments.map Assignment.name) :=
    List.forall₂_map_right_iff.mpr
      ((forall₂_of_mapM assigned).imp fun _ _ found => (assignmentOf_ok found).1.symm)
  rw [List.forall₂_eq_eq_eq] at same
  exact same.symm

/-- A device with features becomes a member where collectors are assigned for all of their names. -/
theorem memberOf_of_assigned {config : Config} {device : Device} {features : Features}
    {names : List String} {assignments : List Assignment}
    (found : config.featuresOf device.name = .ok features) (named : features.names = .ok names)
    (assigned : names.mapM assignmentOf = .ok assignments) :
    memberOf config device = .ok (.ofDevice device assignments) := by
  -- The features, their names and the collectors are found in turn.
  simp only [memberOf, bind, Except.bind, found, Config.shaped, named, Except.mapError, assigned]
  rfl

/-- A key enables a collector: among the features, as the one that always is, or as a flag. -/
def Wanted (features : Features) (flags : List String) (key : String) : Prop :=
  key ∈ features.enabledKeys ∨ key = alwaysEnabled ∨ key ∈ flags

/-- The keys that enable collectors, each once where those of the features are different. -/
def wantedKeys (features : Features) (flags : List String) : List String :=
  Features.enabledKeys (flags.foldl Features.enable (features.enable alwaysEnabled))

/-- The keys that enable collectors are those of the features and of the flags. -/
theorem mem_wantedKeys {features : Features} {flags : List String} {key : String} :
    key ∈ wantedKeys features flags ↔ Wanted features flags key := by
  -- The flags come behind the features, and the collector for resources behind both.
  rw [wantedKeys, Features.mem_enabledKeys_enableAll, Features.mem_enabledKeys_enable, or_assoc]
  rfl

/-- In small letters, the keys that enable collectors are those of the features and the flags. -/
theorem mem_lowercase_wantedKeys {features : Features} {flags : List String}
    (registered : ∀ flag ∈ flags, flag ∈ Collector.names) {name : String} :
    (∃ key ∈ wantedKeys features flags, Text.lowercase key = name) ↔
      name = alwaysEnabled ∨ name ∈ flags ∨
        ∃ key ∈ features.enabledKeys, Text.lowercase key = name := by
  have small := names_lowercase.2.2
  simp only [mem_wantedKeys, Wanted]
  -- Only the keys of the features may have capital letters; the others stay as they are.
  constructor
  · rintro ⟨key, enabled | rfl | flag, rfl⟩
    · exact .inr (.inr ⟨key, enabled, rfl⟩)
    · exact .inl (small _ alwaysEnabled_registered)
    · rw [small key (registered key flag)]
      exact .inr (.inl flag)
  · rintro (rfl | flag | ⟨key, enabled, rfl⟩)
    · exact ⟨_, .inr (.inl rfl), small _ alwaysEnabled_registered⟩
    · exact ⟨name, .inr (.inr flag), small name (registered name flag)⟩
    · exact ⟨key, .inl enabled, rfl⟩

/-- Different keys of features stay different when flags are added. -/
theorem wantedKeys_nodup {features : Features} (distinct : features.Distinct)
    (flags : List String) : (wantedKeys features flags).Nodup := by
  refine Features.enabledKeys_nodup ?_
  -- What is enabled is put, and this keeps the keys apart.
  refine List.foldlRecOn flags Features.enable (distinct.put _ _) ?_
  exact fun features distinct flag _ => distinct.put _ _

/-- A member is a device with the collectors that certain keys name. -/
structure Member.Has (device : Device) (keys : List String) (member : Member) : Prop where
  of_device : member.device = device
  named : member.assignments.map Assignment.name = keys.map Text.lowercase
  registered : ∀ assignment ∈ member.assignments,
    assignment.collector ∈ Collector.all ∧ assignment.collector.name = assignment.name

/-- The collectors of a member have the names that its keys have in small letters. -/
theorem Member.Has.collectors {device : Device} {keys : List String} {member : Member}
    (has : member.Has device keys) :
    member.assignments.map (fun assignment => assignment.collector.name) =
      keys.map Text.lowercase := by
  -- A collector is registered under the key of its assignment in small letters.
  rw [← has.named]
  exact List.map_congr_left fun assignment enabled => (has.registered assignment enabled).2

section Loaded

variable {draft : Draft} {config : Config} (made : MadeOf Collector.names draft config)
  {flags : List String} (registered : ∀ flag ∈ flags, flag ∈ Collector.names)

include made registered

/-- A device of a loaded configuration has the collectors of the first device of its name. -/
theorem memberOf_loaded {device : Device} (inside : device ∈ config.devices) :
    ∃ first features member,
      config.findDevice device.name = .ok first ∧
        draft.featuresOf? first = some features ∧
        memberOf (config.enable flags) device = .ok member ∧
        member.Has device (wantedKeys features flags) := by
  obtain ⟨some_known, named, small⟩ := names_lowercase
  obtain ⟨first, found⟩ := Config.exists_findDevice inside
  obtain ⟨features, own⟩ := made.profiled first (Config.mem_of_findDevice found).1
  -- The flags come on top of the features that are found under the name.
  have looked : (config.enable flags).featuresOf device.name =
      .ok (flags.foldl Features.enable (features.enable alwaysEnabled)) := by
    rw [Config.featuresOf_enable, made.featuresOf found own]
    rfl
  -- All keys are known, so in small letters they are the names of collectors.
  have known : Features.Known Collector.names
      (flags.foldl Features.enable (features.enable alwaysEnabled)) := by
    refine Features.Known.enableAll (.enable (made.known some_known named own) ?_)
      fun flag listed => ?_
    · rw [small _ alwaysEnabled_registered]
      exact alwaysEnabled_registered
    · rw [small flag (registered flag listed)]
      exact registered flag listed
  have names := Features.names_of_known known
  have keys : ∀ name ∈ (wantedKeys features flags).map Text.lowercase, name ∈ Collector.names := by
    intro name member
    obtain ⟨key, wanted, rfl⟩ := List.mem_map.mp member
    obtain ⟨value, entry, -⟩ := Features.mem_enabledKeys.mp wanted
    obtain ⟨text, same, listed⟩ := known _ (List.mem_map_of_mem entry)
    cases same
    exact listed
  obtain ⟨assignments, assigned⟩ :=
    exists_mapM fun name member => assignmentOf_registered (keys name member)
  refine ⟨first, features, .ofDevice device assignments, found, own,
    memberOf_of_assigned looked names assigned, rfl, assigned_names assigned, ?_⟩
  intro assignment enabled
  obtain ⟨name, member, found⟩ := exists_of_mem_mapM assigned enabled
  obtain ⟨rfl, known, called⟩ := assignmentOf_ok found
  exact ⟨known, called.trans (small _ (keys _ member))⟩

/-- Every loaded configuration gives a fleet of its devices in their order. -/
theorem ofConfig_loaded :
    ∃ fleet, ofConfig (config.enable flags) = .ok fleet ∧
      List.Forall₂ (fun device member => ∃ first features,
        config.findDevice device.name = .ok first ∧
          draft.featuresOf? first = some features ∧
          member.Has device (wantedKeys features flags)) config.devices fleet.members := by
  have each := fun (device : Device) (inside : device ∈ config.devices) =>
    memberOf_loaded made registered inside
  obtain ⟨members, mapped⟩ : ∃ members,
      config.devices.mapM (memberOf (config.enable flags)) = .ok members := by
    refine exists_mapM fun device inside => ?_
    obtain ⟨-, -, member, -, -, made, -⟩ := each device inside
    exact ⟨member, made⟩
  have configured : ofConfig (config.enable flags) = .ok ⟨members⟩ := by
    rw [ofConfig, show (config.enable flags).devices = config.devices from rfl, mapped]
    rfl
  refine ⟨⟨members⟩, configured, ?_⟩
  refine ((List.forall₂_and_left _ _).mpr
    ⟨fun device inside => each device inside, forall₂_of_mapM mapped⟩).imp ?_
  -- There is one member for each device, and it is the one that was found to have its collectors.
  rintro device member ⟨⟨first, features, other, found, own, same, has⟩, made⟩
  rw [made] at same
  cases same
  exact ⟨first, features, found, own, has⟩

end Loaded

/-- A member has each collector once exactly if none is enabled for it under two spellings. -/
structure OncePerSpelling (draft : Draft) (config : Config) (flags : List String)
    (device : Device) (member : Member) : Prop where
  of_device : member.device = device
  /-- No two of the keys that enable collectors for the device are the same in small letters. -/
  once_iff : ∃ first features,
    config.findDevice device.name = .ok first ∧
      draft.featuresOf? first = some features ∧
      ((member.assignments.map fun assignment => assignment.collector.name).Nodup ↔
        ∀ key other, Wanted features flags key → Wanted features flags other →
          Text.lowercase key = Text.lowercase other → key = other)

/--
A collector runs once on every device exactly if it is not enabled under two spellings.

Every document that is loaded gives a fleet, whatever registered collectors are enabled by flags.
A device has each collector at most once exactly if no two of the keys that enable collectors for it
are the same in small letters: those of the features, the one that is always enabled, and the flags.
-/
theorem collectors_once_iff {source : Source} {config : Config}
    (loaded : Config.loadSource Collector.names source = .ok config) {flags : List String}
    (registered : ∀ flag ∈ flags, flag ∈ Collector.names) :
    ∃ draft fleet, Holds source draft ∧ ofConfig (config.enable flags) = .ok fleet ∧
      List.Forall₂ (OncePerSpelling draft config flags) config.devices fleet.members := by
  obtain ⟨draft, held, made⟩ := Config.loadSource_ok loaded
  obtain ⟨fleet, configured, members⟩ := ofConfig_loaded made registered
  refine ⟨draft, fleet, held, configured, members.imp ?_⟩
  rintro device member ⟨first, features, found, own, has⟩
  refine ⟨has.of_device, first, features, found, own, ?_⟩
  have distinct := wantedKeys_nodup (held.distinct_of_device own) flags
  -- As the keys are different, only small letters can make two of them one collector.
  rw [has.collectors, List.nodup_map_iff_inj_on distinct]
  simp only [mem_wantedKeys]
  exact ⟨fun apart key other wanted wanted' => apart key wanted other wanted',
    fun apart key wanted other wanted' => apart key other wanted wanted'⟩

/-- A document of one device that enables a collector with a capital letter. -/
def capitalSource : Source :=
  ⟨("features:\n  Resource: true\n" ++
    "devices:\n- name: gw\n  address: 10.0.0.1\n  user: u\n  password: p\n").toList, none⟩

/-- The capital letter makes a second key of the one that is always enabled. -/
theorem collectors_twice_of_capital :
    ∃ config fleet draft, Config.loadSource Collector.names capitalSource = .ok config ∧
      ofConfig (config.enable []) = .ok fleet ∧
      fleet.members.map (fun member => member.assignments.map Assignment.name) =
        [["resource", "resource"]] ∧
      Holds capitalSource draft ∧
      List.Forall₂ (OncePerSpelling draft config []) config.devices fleet.members := by
  have ran : (do
      let config ← (Config.loadSource Collector.names capitalSource).toOption
      let fleet ← (ofConfig (config.enable [])).toOption
      return fleet.members.map fun member => member.assignments.map Assignment.name) =
        some [["resource", "resource"]] := by decide +kernel
  simp only [Option.bind_eq_bind, Option.bind_eq_some_iff, Option.pure_def, Option.some.injEq]
    at ran
  obtain ⟨config, loaded, fleet, configured, names⟩ := ran
  -- The fleet that the theorem speaks of is the one that was made.
  obtain ⟨draft, same, held, configured', once⟩ :=
    collectors_once_iff (ok_of_toOption loaded) (fun _ none => absurd none List.not_mem_nil)
  obtain rfl := Except.ok.inj (configured'.symm.trans (ok_of_toOption configured))
  exact ⟨config, same, draft, ok_of_toOption loaded, configured', names, held, once⟩

/-- A member that was made of the fields of a device, with the collectors of its own features. -/
structure RunsOwn (draft : Draft) (flags : List String) (fields : Device.Fields) (member : Member) :
    Prop where
  described : Device.ofFields fields = .ok member.device
  /-- Nothing is missing of the device. -/
  given : ∀ field, member.device.field field ≠ ""
  registered : ∀ assignment ∈ member.assignments,
    assignment.collector ∈ Collector.all ∧ assignment.collector.name = assignment.name
  /-- In small letters, the keys of its features and the flags name its collectors. -/
  enabled : ∃ features, draft.featuresOf? member.device = some features ∧
    ∀ name, name ∈ member.assignments.map Assignment.name ↔
      name = alwaysEnabled ∨ name ∈ flags ∨
        ∃ key ∈ features.enabledKeys, Text.lowercase key = name

/--
Every document that is loaded can be run.

Where its devices have different names, the fleet has exactly those that are not disabled, in their
order and with everything that has to be given.
Each has the collectors of its own features, the one that is always enabled, and those of the flags.
-/
theorem loaded_config_runs {source : Source} {config : Config}
    (loaded : Config.loadSource Collector.names source = .ok config)
    (distinct : (config.devices.map Device.name).Nodup) {flags : List String}
    (registered : ∀ flag ∈ flags, flag ∈ Collector.names) :
    ∃ draft fleet, Holds source draft ∧ ofConfig (config.enable flags) = .ok fleet ∧
      List.Forall₂ (RunsOwn draft flags) draft.scraped fleet.members := by
  obtain ⟨draft, held, made⟩ := Config.loadSource_ok loaded
  obtain ⟨fleet, configured, members⟩ := ofConfig_loaded made registered
  refine ⟨draft, fleet, held, configured, ?_⟩
  refine forall₂_trans made.devices members fun fields device inside member described joined => ?_
  obtain ⟨first, features, found, own, has⟩ := joined
  -- No other device has the name, so the features that are found are its own.
  obtain ⟨listed, same⟩ := Config.mem_of_findDevice found
  obtain rfl : first = device := List.inj_on_of_nodup_map distinct listed inside same
  obtain rfl := has.of_device
  refine ⟨described, made.given _ inside, has.registered, features, own, fun name => ?_⟩
  rw [has.named, List.mem_map]
  exact mem_lowercase_wantedKeys registered

/-- A document of two devices and a disabled one, with a letter that is small as another one is. -/
def profileSource : Source :=
  ⟨("features:\n  conntrac\u212a: true\nprofiles:\n  edge:\n    Health: yes\n" ++
    "devices:\n- name: gw1\n  address: 10.0.0.1\n  user: u\n  password: p\n" ++
    "- disabled: yes\n" ++
    "- name: gw2\n  address: 10.0.0.2\n  user: u\n  password: 7\n  profile: edge\n").toList, none⟩

/-- The two devices run with what all have, what the profile has, and what a flag adds to both. -/
theorem loaded_config_runs_of_profile :
    ∃ config fleet draft, Config.loadSource Collector.names profileSource = .ok config ∧
      config.devices.map Device.name = ["gw1", "gw2"] ∧
      ofConfig (config.enable ["queue"]) = .ok fleet ∧
      fleet.members.map (fun member => member.assignments.map Assignment.name) =
        [["conntrack", "resource", "queue"], ["health", "resource", "queue"]] ∧
      Holds profileSource draft ∧
      List.Forall₂ (RunsOwn draft ["queue"]) draft.scraped fleet.members := by
  -- Loading and assembling are computed at once, and only names are looked at.
  have ran : (do
      let config ← (Config.loadSource Collector.names profileSource).toOption
      let fleet ← (ofConfig (config.enable ["queue"])).toOption
      return (config.devices.map Device.name,
        fleet.members.map fun member => member.assignments.map Assignment.name)) =
        some (["gw1", "gw2"],
          [["conntrack", "resource", "queue"], ["health", "resource", "queue"]]) := by
    decide +kernel
  simp only [Option.bind_eq_bind, Option.bind_eq_some_iff, Option.pure_def, Option.some.injEq,
    Prod.mk.injEq] at ran
  obtain ⟨config, loaded, fleet, configured, devices, names⟩ := ran
  have registered : ∀ flag ∈ ["queue"], flag ∈ Collector.names := by decide +kernel
  obtain ⟨draft, same, held, configured', runs⟩ :=
    loaded_config_runs (ok_of_toOption loaded) (by rw [devices]; decide) registered
  obtain rfl := Except.ok.inj (configured'.symm.trans (ok_of_toOption configured))
  exact ⟨config, same, draft, ok_of_toOption loaded, devices, configured', names, held, runs⟩

/-- In the fleet of a loaded configuration a device has the collectors of the first of its name. -/
theorem members_of_first {known : List String} {draft : Draft} {config : Config} {fleet : Fleet}
    (made : MadeOf known draft config) (configured : ofConfig config = .ok fleet) :
    List.Forall₂ (fun device member => member.device = device ∧
      ∃ first, config.findDevice device.name = .ok first ∧
        draft.namesOf? first = some (member.assignments.map Assignment.name))
      config.devices fleet.members := by
  refine (ofConfig_members configured).imp fun device member assembled => ?_
  obtain ⟨features, names, assignments, looked, named, assigned, rfl⟩ := memberOf_ok assembled
  refine ⟨rfl, ?_⟩
  obtain ⟨first, found, -⟩ := ok_of_bind looked
  -- The features that were looked up are those of the first device, with one more enabled.
  obtain ⟨own, given⟩ := made.profiled first (Config.mem_of_findDevice found).1
  obtain rfl := Except.ok.inj (looked.symm.trans (made.featuresOf found given))
  refine ⟨first, found, ?_⟩
  rw [Draft.namesOf?, given, Option.bind_some, named, ← assigned_names assigned]
  rfl

/-- Where the collectors of the devices come from. -/
structure NamedByFirst (draft : Draft) (config : Config) (fleet : Fleet) : Prop where
  devices : fleet.members.map Member.device = config.devices
  /-- A device has the collectors that are enabled for the first device of its name. -/
  first : ∀ member ∈ fleet.members, ∃ first,
    config.findDevice member.device.name = .ok first ∧
      draft.namesOf? first = some (member.assignments.map Assignment.name)
  /-- They are its own exactly if devices of the same name have the same collectors enabled. -/
  own_iff :
    (∀ member ∈ fleet.members,
        draft.namesOf? member.device = some (member.assignments.map Assignment.name)) ↔
      ∀ device ∈ config.devices, ∀ other ∈ config.devices, device.name = other.name →
        draft.namesOf? device = draft.namesOf? other

/--
Every device has the collectors of its own features exactly if namesakes have the same ones.

A device has the collectors of the first device of its name, be it that of its own or not.
-/
theorem own_features_iff {known : List String} {source : Source} {config : Config} {fleet : Fleet}
    (loaded : Config.loadSource known source = .ok config)
    (configured : ofConfig config = .ok fleet) :
    ∃ draft, Holds source draft ∧ NamedByFirst draft config fleet := by
  obtain ⟨draft, held, made⟩ := Config.loadSource_ok loaded
  have members := members_of_first made configured
  have devices : fleet.members.map Member.device = config.devices := by
    have same : List.Forall₂ (· = ·) (fleet.members.map Member.device) config.devices :=
      List.forall₂_map_left_iff.mpr (members.flip.imp fun _ _ joined => joined.1)
    rwa [List.forall₂_eq_eq_eq] at same
  have firsts : ∀ member ∈ fleet.members, ∃ first,
      config.findDevice member.device.name = .ok first ∧
        draft.namesOf? first = some (member.assignments.map Assignment.name) := by
    intro member inside
    obtain ⟨device, -, rfl, joined⟩ := exists_of_forall₂ members inside
    exact joined
  refine ⟨draft, held, devices, firsts,
    fun own device listed other listed' same => ?_, fun alike member inside => ?_⟩
  · -- Both devices have members, and these have the collectors of the same first device.
    rw [← devices] at listed listed'
    obtain ⟨member, inside, rfl⟩ := List.mem_map.mp listed
    obtain ⟨member', inside', rfl⟩ := List.mem_map.mp listed'
    obtain ⟨first, found, names⟩ := firsts member inside
    obtain ⟨first', found', names'⟩ := firsts member' inside'
    rw [same, found'] at found
    cases found
    rw [own member inside, own member' inside', ← names, ← names']
  · obtain ⟨first, found, names⟩ := firsts member inside
    obtain ⟨listed, same⟩ := Config.mem_of_findDevice found
    have own : member.device ∈ config.devices := devices ▸ List.mem_map_of_mem inside
    rw [← names]
    exact (alike first listed member.device own same).symm

/-- A document of two devices of one name, of which the first has a profile. -/
def namesakeSource : Source :=
  ⟨("profiles:\n  edge:\n    interface: true\n" ++
    "devices:\n- name: gw\n  address: 10.0.0.1\n  user: u\n  password: p\n  profile: edge\n" ++
    "- name: gw\n  address: 10.0.0.2\n  user: u\n  password: p\n").toList, none⟩

/-- The second device has no profile, and it has the collectors of the profile of the first. -/
theorem own_features_of_namesake :
    ∃ config fleet, Config.loadSource Collector.names namesakeSource = .ok config ∧
      ofConfig config = .ok fleet ∧
      config.devices.map Device.profile = ["edge", ""] ∧
      config.features.names.toOption = some ["resource"] ∧
      fleet.members.map (fun member => member.assignments.map Assignment.name) =
        [["interface", "resource"], ["interface", "resource"]] ∧
      ∃ draft, Holds namesakeSource draft ∧ NamedByFirst draft config fleet := by
  -- Loading and assembling are computed at once, and only names are looked at.
  have ran : (do
      let config ← (Config.loadSource Collector.names namesakeSource).toOption
      let fleet ← (ofConfig config).toOption
      return (config.devices.map Device.profile, config.features.names.toOption,
        fleet.members.map fun member => member.assignments.map Assignment.name)) =
        some (["edge", ""], some ["resource"],
          [["interface", "resource"], ["interface", "resource"]]) := by decide +kernel
  simp only [Option.bind_eq_bind, Option.bind_eq_some_iff, Option.pure_def, Option.some.injEq,
    Prod.mk.injEq] at ran
  obtain ⟨config, loaded, fleet, configured, profiles, features, names⟩ := ran
  exact ⟨config, fleet, ok_of_toOption loaded, ok_of_toOption configured, profiles, features, names,
    own_features_iff (ok_of_toOption loaded) (ok_of_toOption configured)⟩

end RouterMetrics.Fleet
