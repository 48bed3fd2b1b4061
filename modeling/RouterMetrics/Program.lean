import RouterMetrics.CommandLine.Help
import RouterMetrics.CommandLine.Reading
import RouterMetrics.Config.File
import RouterMetrics.Service
import RouterMetrics.Web.Address

/-! The program: from its command line to a service, and from a service to its end. -/

namespace RouterMetrics.Program

open RouterMetrics.CommandLine (Arguments)

/-- What is around the program when it starts. -/
structure Surroundings where
  /-- The arguments where the command line does not set them. -/
  preset : Arguments
  environment : Config.Environment
  files : Config.Reading
  network : Session.Network

/-- Why the program cannot start. -/
inductive Fault where
  | config (fault : Config.Fault)
  | address (fault : Web.AddressFault)
  /-- A setting was announced and came without a value. -/
  | valueless
deriving Repr, DecidableEq

/-- The wording of a fault. -/
def Fault.message : Fault → String
  | config fault => fault.message
  | address fault => fault.message
  | valueless => "a setting has no value"

/-- Whether a fault is reported as one of the settings; the others end the program as they are. -/
def Fault.isForeseen : Fault → Bool
  | config fault => fault.isForeseen
  | address _ => true
  | valueless => false

/-- How the program ends. -/
inductive Ending where
  | status (code : Nat)
  /-- A fault that nobody foresaw. -/
  | failed (fault : Fault)
  /-- There is no fleet of the configuration. -/
  | noFleet (fault : Fleet.Fault)
  /-- The server cannot listen on its address. -/
  | notListening (fault : NetworkFault)
deriving Repr, DecidableEq

/-- The fault that ends the program, if one does. -/
def Ending.fault? : Ending → Option String
  | status _ => none
  | failed fault => some fault.message
  | noFleet fault => some fault.message
  | notListening fault => some fault.message

/-- The status that the program ends with. -/
def Ending.code : Ending → Nat
  | status code => code
  | failed _ | noFleet _ | notListening _ => 1

/-- The status of a program that did what it was asked for. -/
def success : Nat := 0

/-- The status after a command line that is refused. -/
def refused : Nat := 2

/-- The status after settings with a fault. -/
def misconfigured : Nat := 3

/-- What happens to the server as a whole. -/
inductive ServerEvent where
  | listen (address : Web.Address) (metricsPath : String)
  | close
deriving Repr, DecidableEq

/-- Everything that can be seen of the program. -/
structure Transcript where
  output : String := ""
  /-- What is written where complaints go. -/
  complaint : String := ""
  /-- The level of the journal, once it is known. -/
  logLevel : Option String := none
  journal : List Entry := []
  server : List ServerEvent := []
  responses : List (Except Web.Fault Web.Response) := []
  events : List Session.Event := []
  ending : Ending

/-- The program after its start. -/
inductive Start where
  /-- There is nothing left to do. -/
  | ended (transcript : Transcript)
  | ready (logLevel : String) (address : Web.Address) (service : Service)

/-- What the entries about the program come from. -/
def journalSource : String := "MikrotikExporter"

/-- The entry about a fault of the settings. -/
def faultEntry (fault : Fault) : Entry :=
  ⟨.error, journalSource, "Could not load configuration: " ++ fault.message, none⟩

/-- The entry about the start of the service. -/
def startEntry (config : Config) : Entry :=
  let count := config.devices.length
  ⟨.info, journalSource, s!"Starting Mikrotik exporter with {count} device(s)", none⟩

/-- The configuration that the arguments name: that of a file, or else that of a single device. -/
def configOf (surroundings : Surroundings) (arguments : Arguments) : Except Config.Fault Config :=
  let named :=
    if !arguments.configFile.isEmpty then
      Config.loadFile Collector.names surroundings.files arguments.configFile
    else if !arguments.device.name.isEmpty then
      Config.single surroundings.environment arguments.device
    else .error .nothingNamed
  named.map fun config => config.enable arguments.enabledNames

/-- The settings that the arguments name: the configuration and the address to listen on. -/
def settingsOf (surroundings : Surroundings) (arguments : Arguments) :
    Except Fault (Config × Web.Address) := do
  let config ← (configOf surroundings arguments).mapError .config
  let some text := arguments.listenAddress | .error .valueless
  let address ← (Web.Address.read text).mapError .address
  return (config, address)

/-- The entries before the settings are known. -/
def firstEntries (arguments : Arguments) : List Entry :=
  if arguments.configFile.isEmpty then [] else [Config.fileEntry arguments.configFile]

/-- The service for a configuration, reporting from its start on. -/
def serviceFor (surroundings : Surroundings) (arguments : Arguments) (journal : List Entry)
    (config : Config) : Except Fleet.Fault Service := do
  let fleet ← Fleet.ofConfig config
  return ⟨fleet, surroundings.network, journal ++ startEntry config :: fleet.entries,
    arguments.path⟩

/-- Starts the service that the arguments ask for. -/
def launch (surroundings : Surroundings) (arguments : Arguments) (logLevel : String)
    (journal : List Entry) : Start :=
  let journal := journal ++ firstEntries arguments
  let ended := fun journal ending => Start.ended { logLevel := some logLevel, journal, ending }
  match settingsOf surroundings arguments with
  | .error fault =>
      if fault.isForeseen then ended (journal ++ [faultEntry fault]) (.status misconfigured)
      else ended journal (.failed fault)
  | .ok (config, address) =>
      match serviceFor surroundings arguments journal config with
      | .error fault => ended (journal ++ [startEntry config]) (.noFleet fault)
      | .ok service => .ready logLevel address service

/-- Starts the program with the words of its command line. -/
def start (surroundings : Surroundings) (words : List String) : Start :=
  match CommandLine.read surroundings.preset words with
  | .error refusal =>
      .ended { complaint := CommandLine.complaint refusal.message, ending := .status refused }
  | .ok .help =>
      .ended { output := CommandLine.help surroundings.preset, ending := .status success }
  | .ok (.run arguments) =>
      match arguments.logLevel.map Config.logLevelOf with
      | none => .ended { ending := .failed .valueless }
      | some (logLevel, journal) =>
          if arguments.listsCollectors then
            .ended
              { output := CommandLine.collectorList, logLevel := some logLevel, journal
                ending := .status success }
          else launch surroundings arguments logLevel journal

/-- How a server comes to its end. -/
inductive Stop where
  | returned
  | interrupted
  /-- It never listened. -/
  | notListening (fault : NetworkFault)
deriving Repr, DecidableEq

/-- The entry about a server that listens; the empty host stands for all addresses. -/
def listeningEntry (address : Web.Address) (metricsPath : String) : Entry :=
  let host := Config.orElse address.host "0.0.0.0"
  let port := Decimal.integerText address.port
  ⟨.info, Web.journalSource, s!"Listening on {host}:{port}, metrics at {metricsPath}", none⟩

/-- The entry about a server that is interrupted. -/
def interruptedEntry : Entry := ⟨.info, Web.journalSource, "Shutting down...", none⟩

/-- Answers requests up to the end of the server; every scrape of a device takes some seconds. -/
def serve (seconds : Float) (address : Web.Address) (requests : List Web.Request)
    (isInterrupted : Bool) : StateM Service (List (Except Web.Fault Web.Response)) := do
  Service.report (listeningEntry address (← get).metricsPath)
  let responses ← requests.mapM (Service.answer seconds)
  if isInterrupted then Service.report interruptedEntry
  Service.close
  return responses

/-- The whole life of a service that is ready. -/
def serviceTranscript (seconds : Float) (logLevel : String) (address : Web.Address)
    (service : Service) (requests : List Web.Request) (stop : Stop) : Transcript :=
  let listen := ServerEvent.listen address service.metricsPath
  match stop with
  | .notListening fault =>
      let ((), service) := Service.close.run service
      { logLevel := some logLevel, journal := service.journal, server := [listen]
        events := service.network.events, ending := .notListening fault }
  | stop =>
      let (responses, service) :=
        (serve seconds address requests (decide (stop = .interrupted))).run service
      { logLevel := some logLevel, journal := service.journal, server := [listen, .close]
        responses, events := service.network.events, ending := .status success }

/-- The whole life of the program, given the requests to its server and how that stops. -/
def run (seconds : Float) (surroundings : Surroundings) (words : List String)
    (requests : List Web.Request) (stop : Stop) : Transcript :=
  match start surroundings words with
  | .ended transcript => transcript
  | .ready logLevel address service =>
      serviceTranscript seconds logLevel address service requests stop

end RouterMetrics.Program
