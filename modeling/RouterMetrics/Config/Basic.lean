import RouterMetrics.Config.Fault
import RouterMetrics.Config.Outline
import RouterMetrics.Yaml.Building

/-! Configurations: devices, the features of all, and profiles with features of their own. -/

namespace RouterMetrics

open RouterMetrics.Yaml (Scalar)

/-- Devices, and which collectors they have. -/
structure Config where
  devices : List Config.Device
  features : Config.Features
  profiles : OrderedMap Scalar Config.Features

namespace Config

/-- The first device with a name. -/
def findDevice (config : Config) (name : String) : Except Fault Device :=
  match config.devices.find? fun device => device.name == name with
  | some device => .ok device
  | none => .error (.unknownDevice name)

/-- The features of the device with a name: those of its profile, if it has one. -/
def featuresOf (config : Config) (name : String) : Except Fault Features := do
  let device ← config.findDevice name
  if device.profile.isEmpty then return config.features
  match config.profiles.get? (.text device.profile) with
  | some features => return features
  | none => throw (.unknownProfile device.profile)

/-- The configuration with features enabled everywhere. -/
def enable (config : Config) (names : List String) : Config :=
  let all := fun features => names.foldl Features.enable features
  { config with features := all config.features, profiles := config.profiles.mapValues all }

/-- The configuration without a profile, if it has one of that name. -/
def dropProfile? (config : Config) (name : String) : Option Config :=
  let key := Scalar.text name
  if config.profiles.contains key then
    some { config with profiles := config.profiles.erase key }
  else none

/-! Loading. -/

/-- A shape that is right, or the fault. -/
def shaped {α : Type} (result : Shaped α) : Except Fault α := result.mapError Fault.shape

/-- Features that are all known, with the one that is always there; or the fault of the others. -/
def checkedFeatures (known : List String) (fault : List Problem → Except Fault Fault)
    (features : Features) : Except Fault Features := do
  match ← shaped (features.unknownKeys known) with
  | [] => return features.enable alwaysEnabled
  | keys => throw (← fault (keys.map Problem.unknownFeature))

/-- The profile with a name and features. -/
def profileOf (known : List String) (name : Scalar) (features : Shaped Features) :
    Except Fault Features := do
  let fault := fun problems => do
    return Fault.badProfile (← shaped (textOf (.scalar name))) problems
  checkedFeatures known fault (← shaped features)

/-- The profiles with their features. -/
def profilesOf (known : List String) (profiles : List (Scalar × Shaped Features)) :
    Except Fault (OrderedMap Scalar Features) := do
  let checked ← profiles.mapM fun (name, features) => do
    return (name, ← profileOf known name features)
  return .ofList checked

/-- The positions of devices without fields. -/
def strayDevices (devices : List (Option Device.Fields)) : List Nat :=
  (devices.zipIdx.filter fun device => device.1.isNone).map Prod.snd

/-- What is wrong with some devices. -/
def problemsOf (isProfile : String → Bool) (devices : List Device) : List Problem :=
  devices.zipIdx.flatMap fun (device, index) =>
    (device.defects isProfile).map (Problem.device index device.name)

/-- The devices with these fields that are not disabled. -/
def devicesOf (isProfile : String → Bool) (fields : List (Option Device.Fields)) :
    Except Fault (List Device) := do
  let stray := strayDevices fields
  unless stray.isEmpty do throw (.badDevices (stray.map Problem.notMapping))
  let devices ← shaped ((fields.filterMap id).mapM Device.ofFields)
  let devices := devices.filter fun device => !device.disabled
  let problems := problemsOf isProfile devices
  unless problems.isEmpty do throw (.badDevices problems)
  return devices

/-- The configuration of an outline, given the names of all collectors. -/
def ofOutline (known : List String) (outline : Outline) : Except Fault Config := do
  let features ← shaped outline.features
  let features ← checkedFeatures known (fun problems => .ok (.badFeatures problems)) features
  let profiles ← profilesOf known (← shaped outline.profiles)
  let isProfile := fun name => profiles.contains (.text name)
  return ⟨← devicesOf isProfile (← shaped outline.devices), features, profiles⟩

/-- The configuration that a document describes. -/
def ofDocument (known : List String) (document : Yaml.Document) : Except Fault Config :=
  match document.root, document.entries? document.root with
  | .scalar .null, _ => .error .empty
  | _, some entries => ofOutline known (.ofEntries document entries)
  | _, none => .error .notMapping

/-- The configuration in a source, given the names of all collectors. -/
def loadSource (known : List String) (source : Yaml.Source) : Except Fault Config := do
  match ← (Yaml.Document.ofSource? source).mapError Fault.document with
  | some document => ofDocument known document
  | none => throw .empty

/-- The configuration in a text, given the names of all collectors. -/
def load (known : List String) (text : String) : Except Fault Config := do
  loadSource known (← (Yaml.Source.ofText text).mapError Fault.document)

end Config

end RouterMetrics
