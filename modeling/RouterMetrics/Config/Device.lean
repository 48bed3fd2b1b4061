import RouterMetrics.Config.Shape

/-! Devices to be scraped. -/

namespace RouterMetrics.Config

open RouterMetrics.Yaml (Value)

/-- The seconds that connecting to a device may take where nothing else is said. -/
def defaultTimeout : Int := 5

/-- A device and how to reach it. -/
structure Device where
  name : String := ""
  address : String := ""
  user : String := ""
  password : String := ""
  port : Option Int := none
  profile : String := ""
  tls : Bool := false
  insecure : Bool := false
  timeout : Int := defaultTimeout
  disabled : Bool := false
  ipv6Disabled : Bool := false
deriving Repr, DecidableEq

/-- The ports on which devices listen, without and with encryption. -/
def plainPort : Int := 8728
def encryptedPort : Int := 8729

/-- A part of a device that has to be given. -/
inductive Field where
  | name
  | address
  | user
  | password
deriving Repr, DecidableEq

namespace Field

/-- The parts that have to be given. -/
def all : List Field := [name, address, user, password]

/-- The word for a part. -/
def word : Field → String
  | name => "name"
  | address => "address"
  | user => "user"
  | password => "password"

end Field

/-- What is wrong with a device. -/
inductive Defect where
  | missing (field : Field)
  | unknownProfile (name : String)
deriving Repr, DecidableEq

/-- The wording of a defect. -/
def Defect.message : Defect → String
  | missing field => "missing `" ++ field.word ++ "`"
  | unknownProfile name => "unknown profile: " ++ name

namespace Device

/-- The port of a device, the usual one where none is given. -/
def portOrUsual (device : Device) : Int :=
  device.port.getD (if device.tls then encryptedPort else plainPort)

/-- A part of a device that has to be given. -/
def field (device : Device) : Field → String
  | .name => device.name
  | .address => device.address
  | .user => device.user
  | .password => device.password

/-- What is wrong with a device where these profiles are known. -/
def defects (isProfile : String → Bool) (device : Device) : List Defect :=
  let missing := (Field.all.filter fun field => (device.field field).isEmpty).map Defect.missing
  if device.profile.isEmpty || isProfile device.profile then missing
  else missing ++ [.unknownProfile device.profile]

/-- What is said about a device: the values of its fields by their names. -/
abbrev Fields := String → Option Value

namespace Fields

/-- The value of a field, if it counts as a yes. -/
def given? (fields : Fields) (name : String) : Option Value :=
  (fields name).bind Value.ifTruthy?

/-- The text of a field; empty where nothing is given. -/
def text (fields : Fields) (name : String) : Shaped String :=
  match fields.given? name with
  | some value => textOf value
  | none => .ok ""

/-- Whether a field holds a yes. -/
def flag (fields : Fields) (name : String) : Bool := (fields.given? name).isSome

/-- The port; an empty text is none. -/
def port (fields : Fields) : Shaped (Option Int) :=
  match fields "port" with
  | none | some (.scalar .null) | some (.scalar (.text "")) => .ok none
  | some value => (integerOf value).map some

/-- The timeout. -/
def timeout (fields : Fields) : Shaped Int :=
  match fields.given? "timeout" with
  | some value => integerOf value
  | none => .ok defaultTimeout

end Fields

/-- The device that fields describe. -/
def ofFields (fields : Fields) : Shaped Device := do
  let name ← fields.text "name"
  let address ← fields.text "address"
  let user ← fields.text "user"
  let password ← fields.text "password"
  let port ← fields.port
  let profile ← fields.text "profile"
  let timeout ← fields.timeout
  return ⟨name, address, user, password, port, profile, fields.flag "tls", fields.flag "insecure",
    timeout, fields.flag "disabled", fields.flag "ipv6_disabled"⟩

end Device

end RouterMetrics.Config
