import RouterMetrics.Collector.Registry
import RouterMetrics.Config.Environment

/-! The arguments of the program and the options that set them. -/

namespace RouterMetrics.CommandLine

open RouterMetrics.Config (Device)

/-- What the program is asked to do. -/
structure Arguments where
  /-- The file with the configuration; none if empty. -/
  configFile : String := ""
  /-- The single device, where there is no file. -/
  device : Device := { port := some Config.plainPort }
  /-- The address to listen on; none if its option came without a value. -/
  listenAddress : Option String := Config.defaultListenAddress
  /-- The path under which the metrics are found. -/
  path : String := "/metrics"
  /-- The level of the journal; none if its option came without a value. -/
  logLevel : Option String := Config.defaultLogLevel
  listsCollectors : Bool := false
  enablesAll : Bool := false
  /-- The collectors that are enabled everywhere, besides those of the configuration. -/
  enabled : List String := []

/-- What an option does, and what it does it with. -/
inductive Action where
  /-- Shows the help. -/
  | help
  | flag (set : Arguments → Arguments)
  /-- Takes a text, which may be missing where a value was announced. -/
  | text (set : Option String → Arguments → Arguments)
  | number (set : Int → Arguments → Arguments)

/-- An option of the program. -/
structure Parameter where
  names : List String
  action : Action
  summary : String

namespace Parameter

/-- All names of an option, as they stand in complaints. -/
def label (parameter : Parameter) : String := "/".intercalate parameter.names

/-- Whether an option needs a value. -/
def needsValue (parameter : Parameter) : Bool :=
  match parameter.action with
  | .help | .flag _ => false
  | .text _ | .number _ => true

/-- The word that stands for the value of an option: its long name in capitals. -/
def placeholder (parameter : Parameter) : String :=
  let name := (parameter.names.getLast?.getD "").toList.dropWhile (· == '-')
  String.ofList (name.map fun c => if c == '-' then '_' else c.toUpper)

/-- The first name of an option, and what stands for its value if it needs one. -/
def invocation (parameter : Parameter) (name : String) : String :=
  if parameter.needsValue then name ++ " " ++ parameter.placeholder else name

end Parameter

/-- Sets a part of the single device. -/
def onDevice {α : Type} (set : α → Device → Device) (value : α) (arguments : Arguments) :
    Arguments :=
  { arguments with device := set value arguments.device }

/-- The option that enables a collector. -/
def collectorParameter (collector : Collector) : Parameter :=
  ⟨["--with-" ++ collector.name],
    .flag fun arguments => { arguments with enabled := arguments.enabled ++ [collector.name] },
    "enable " ++ collector.summary⟩

/-- A text with the value that an option has where it is not given. -/
def withDefault (summary value : String) : String := summary ++ " (default: " ++ value ++ ")"

/-- The options that do not enable one collector each; some of them show what is preset. -/
def generalParameters (preset : Arguments) : List Parameter :=
  let port := Decimal.integerText (preset.device.port.getD Config.plainPort)
  let timeout := Decimal.integerText preset.device.timeout
  [⟨["-h", "--help"], .help, "show this help message and exit"⟩,
    ⟨["--config-file"], .text fun value arguments => { arguments with configFile := value.getD "" },
      "config file to load"⟩,
    ⟨["--device"], .text (onDevice fun name device => { device with name := name.getD "" }),
      "single device to monitor"⟩,
    ⟨["--address"], .text (onDevice fun value device => { device with address := value.getD "" }),
      "address of the device to monitor"⟩,
    ⟨["--user"], .text (onDevice fun user device => { device with user := user.getD "" }),
      "user for authentication with single device"⟩,
    ⟨["--password"], .text (onDevice fun value device => { device with password := value.getD "" }),
      "password for authentication for single device"⟩,
    ⟨["--deviceport"], .number (onDevice fun port device => { device with port := some port }),
      withDefault "port for single device" port⟩,
    ⟨["--tls"], .flag (onDevice (fun tls device => { device with tls }) true),
      "use tls to connect to routers"⟩,
    ⟨["--insecure"], .flag (onDevice (fun insecure device => { device with insecure }) true),
      "skips verification of server certificate when using TLS"⟩,
    ⟨["--timeout"], .number (onDevice fun timeout device => { device with timeout }),
      withDefault "timeout when connecting to devices in seconds" timeout⟩,
    ⟨["--listen-address"], .text fun value arguments => { arguments with listenAddress := value },
      withDefault "address on which to expose metrics" (preset.listenAddress.getD "")⟩,
    ⟨["--path"], .text fun value arguments => { arguments with path := value.getD "" },
      withDefault "path to answer requests on" preset.path⟩,
    ⟨["--log-level"], .text fun value arguments => { arguments with logLevel := value },
      withDefault "log level: DEBUG, INFO, WARNING, ERROR" (preset.logLevel.getD "")⟩,
    ⟨["--list-collectors"], .flag fun arguments => { arguments with listsCollectors := true },
      "list available collectors and exit"⟩,
    ⟨["--with-all"], .flag fun arguments => { arguments with enablesAll := true },
      "enable all collectors"⟩]

/-- All options of the program. -/
def parameters (preset : Arguments) : List Parameter :=
  generalParameters preset ++ Collector.all.map collectorParameter

/-- The collectors that the arguments enable, in the order of the registry. -/
def Arguments.enabledNames (arguments : Arguments) : List String :=
  Collector.names.filter fun name => arguments.enablesAll || arguments.enabled.contains name

end RouterMetrics.CommandLine
