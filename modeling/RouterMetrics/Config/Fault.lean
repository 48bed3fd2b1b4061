import RouterMetrics.Config.Device
import RouterMetrics.Config.Directory
import RouterMetrics.Text.Utf8
import RouterMetrics.Yaml.Fault

/-! What can be wrong with a configuration. -/

namespace RouterMetrics.Config

/-- One thing that is wrong with a configuration. -/
inductive Problem where
  | unknownFeature (name : String)
  /-- An entry of the list of devices that is not a mapping. -/
  | notMapping (index : Nat)
  | device (index : Nat) (name : String) (defect : Defect)
  /-- A part of the single device that has to be given. -/
  | missingParameter (field : Field)
deriving Repr, DecidableEq

/-- The wording of a problem. -/
def Problem.message : Problem → String
  | unknownFeature name => "unknown feature: " ++ name
  | notMapping index => s!"device {index} is not a mapping"
  | device index name defect => s!"invalid device {index} ({name}) configuration: {defect.message}"
  | missingParameter .name => "device"
  | missingParameter field => field.word

/-- Why there is no configuration. -/
inductive Fault where
  /-- There is no file under the path. -/
  | unreadable (path : String) (fault : PathFault)
  /-- The path has a character that no path can have. -/
  | badPath
  /-- The bytes of the file are not a text. -/
  | undecodable (invalid : Text.Utf8.Invalid)
  /-- The text is no document. -/
  | document (fault : Yaml.Fault)
  | empty
  | notMapping
  | badFeatures (problems : List Problem)
  | badProfile (name : String) (problems : List Problem)
  | badDevices (problems : List Problem)
  | missingParameters (problems : List Problem)
  /-- Neither a file nor a device is named. -/
  | nothingNamed
  | unknownDevice (name : String)
  | unknownProfile (name : String)
  /-- A value has a shape that nothing can be made of. -/
  | shape (fault : ShapeFault)
deriving Repr, DecidableEq

namespace Fault

/-- Everything that is wrong, one by one. -/
def problems : Fault → List Problem
  | badFeatures problems | badProfile _ problems | badDevices problems
  | missingParameters problems => problems
  | _ => []

/-- The wording of a fault apart from its problems. -/
def heading : Fault → String
  | unreadable path fault => "read file error: " ++ fault.message ++ ": " ++ Text.quoted path
  | badPath => "embedded null byte"
  | undecodable invalid => invalid.message
  | document .malformed => "unmarshal error: " ++ Yaml.Fault.malformed.message
  | document fault => fault.message
  | empty => "configuration is empty"
  | notMapping => "configuration must be a mapping"
  | badFeatures _ => "validate features error"
  | badProfile name _ => s!"invalid profile '{name}'"
  | badDevices _ => "invalid configuration"
  | missingParameters _ => "missing required param for single device configuration"
  | nothingNamed => "either --config-file or --device must be specified"
  | unknownDevice name => "unknown device: " ++ name
  | unknownProfile name => "unknown profile: " ++ name
  | shape fault => fault.message

/-- The wording of a fault. -/
def message (fault : Fault) : String :=
  match fault.problems with
  | [] => fault.heading
  | problems => fault.heading ++ ": " ++ "; ".intercalate (problems.map Problem.message)

/-- Whether a fault is one that configurations are known to have; the others end the program. -/
def isForeseen : Fault → Bool
  | document fault => fault.isForeseen
  | shape fault => fault.isForeseen
  | _ => true

end Fault

end RouterMetrics.Config
