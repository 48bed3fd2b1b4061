import RouterMetrics.Proofs.CommandLine.NumberOption
import RouterMetrics.Proofs.Config.Numbers
import RouterMetrics.Proofs.Program
import RouterMetrics.Proofs.Web.Address

/-!
The numbers of settings, from the command line and the configuration to the service.

Main statement: the ports and timeouts of a service are the whole numbers that its settings stand for,
and the port that it listens on is the one behind the last colon of its address. No range is checked,
but a setting that stands for no whole number ends the program before the service starts.
-/

namespace RouterMetrics.Program

open RouterMetrics.CommandLine (Arguments WrittenIn endsOf numbersFor)
open RouterMetrics.Config (Device DevicesIn TakenFrom enabledFields)
open RouterMetrics.Yaml (Source)

/-- The path names a file with this source. -/
def FileHolds (files : Config.Reading) (path : String) (source : Source) : Prop :=
  ∃ bytes, files path = .ok bytes ∧
    Config.sourceOf (Text.blocksOf Config.blockSize bytes).1
      (Text.blocksOf Config.blockSize bytes).2 = .ok source

/-- A file has one source only. -/
theorem FileHolds.unique {files : Config.Reading} {path : String} {source other : Source}
    (held : FileHolds files path source) (held' : FileHolds files path other) : source = other := by
  -- Reading the file gives one thing, and so does telling its text.
  obtain ⟨bytes, read, told⟩ := held
  obtain ⟨bytes', read', told'⟩ := held'
  obtain rfl := Except.ok.inj (read.symm.trans read')
  exact Except.ok.inj (told.symm.trans told')

/-- The devices are those of the file that the arguments name, or else the single one of these. -/
inductive DevicesTold (surroundings : Surroundings) (arguments : Arguments) : List Device → Prop
  | ofFile {source : Source} {items : List Device.Fields} {devices : List Device}
      (named : arguments.configFile ≠ "")
      (held : FileHolds surroundings.files arguments.configFile source)
      (there : DevicesIn source items)
      (taken : List.Forall₂ TakenFrom (enabledFields items) devices) :
      DevicesTold surroundings arguments devices
  | single {device : Device} (unnamed : arguments.configFile = "")
      (port : device.port = arguments.device.port)
      (timeout : device.timeout = arguments.device.timeout) :
      DevicesTold surroundings arguments [device]

section Starting

variable {surroundings : Surroundings} {words : List String} {arguments : Arguments}

/-- A fleet has the devices of its configuration. -/
theorem devices_of_ofConfig {config : Config} {fleet : Fleet}
    (configured : Fleet.ofConfig config = .ok fleet) :
    fleet.members.map Fleet.Member.device = config.devices := by
  unfold Fleet.ofConfig at configured
  cases mapped : config.devices.mapM (Fleet.memberOf config) with
  | error fault =>
    rw [mapped] at configured
    cases configured
  | ok members =>
    rw [mapped] at configured
    cases configured
    -- Each member is made of one device, and keeps it.
    refine List.forall₂_eq_eq_eq ▸ List.forall₂_map_left_iff.mpr ?_
    refine (forall₂_of_mapM mapped).flip.imp fun member device made => ?_
    obtain ⟨names, -, made⟩ := ok_of_bind made
    obtain ⟨assignments, -, made⟩ := ok_of_bind made
    cases made
    rfl

/-- A configuration from a file is loaded from what the file holds. -/
theorem loadFile_ok {known : List String} {files : Config.Reading} {path : String} {config : Config}
    (loaded : Config.loadFile known files path = .ok config) :
    ∃ source, FileHolds files path source ∧ Config.loadSource known source = .ok config := by
  -- The file is read, decoded and loaded in turn, and none of these steps has failed.
  unfold Config.loadFile at loaded
  split at loaded
  · cases loaded
  · obtain ⟨bytes, read, loaded⟩ := ok_of_bind loaded
    obtain ⟨source, held, loaded⟩ := ok_of_bind loaded
    exact ⟨source, ⟨bytes, ok_of_mapError read, held⟩, ok_of_mapError loaded⟩

/-- A single device has the numbers that are asked for. -/
theorem single_ok {environment : Config.Environment} {device : Device} {config : Config}
    (made : Config.single environment device = .ok config) :
    ∃ own : Device, config.devices = [own] ∧ own.port = device.port ∧ own.timeout = device.timeout := by
  -- Only the user and the password may come from the environment.
  unfold Config.single at made
  dsimp only at made
  split at made
  · cases made
    exact ⟨_, rfl, rfl, rfl⟩
  · cases made

/-- Where the arguments name a file, the configuration is loaded from what it holds. -/
theorem configOf_file {config : Config} (configured : configOf surroundings arguments = .ok config)
    (named : arguments.configFile ≠ "") :
    ∃ source own, FileHolds surroundings.files arguments.configFile source ∧
      Config.loadSource Collector.names source = .ok own ∧ config.devices = own.devices := by
  unfold configOf at configured
  rw [if_pos (by simpa using named)] at configured
  cases loaded : Config.loadFile Collector.names surroundings.files arguments.configFile with
  | error fault =>
    rw [loaded] at configured
    cases configured
  | ok own =>
    rw [loaded] at configured
    cases configured
    obtain ⟨source, held, loaded⟩ := loadFile_ok loaded
    -- Enabling collectors leaves the devices as they are.
    exact ⟨source, own, held, loaded, rfl⟩

/-- The devices of a configuration are those of its file, or the single one of the arguments. -/
theorem devicesTold_of_configOf {config : Config}
    (configured : configOf surroundings arguments = .ok config) :
    DevicesTold surroundings arguments config.devices := by
  -- A file that is named is loaded; else the arguments have to name a device.
  by_cases unnamed : arguments.configFile = ""
  · unfold configOf at configured
    rw [if_neg (by simpa using unnamed)] at configured
    split at configured
    · cases made : Config.single surroundings.environment arguments.device with
      | error fault =>
        rw [made] at configured
        cases configured
      | ok own =>
        rw [made] at configured
        cases configured
        obtain ⟨device, devices, port, timeout⟩ := single_ok made
        change DevicesTold surroundings arguments own.devices
        rw [devices]
        exact .single unnamed port timeout
    · cases configured
  · obtain ⟨source, own, held, loaded, devices⟩ := configOf_file configured unnamed
    -- The numbers of a loaded device are those that its entry stands for.
    obtain ⟨items, there, taken⟩ := Config.takenFrom_of_loadSource loaded
    rw [devices]
    exact .ofFile unnamed held there taken

/-- Settings are right only if there is a configuration and the address has a port. -/
theorem settingsOf_ok {config : Config} {address : Web.Address}
    (settled : settingsOf surroundings arguments = .ok (config, address)) :
    configOf surroundings arguments = .ok config ∧
      ∃ text, arguments.listenAddress = some text ∧ Web.Address.read text = .ok address := by
  -- The configuration comes first, and the address is read behind it.
  obtain ⟨own, configured, settled⟩ := ok_of_bind settled
  cases addressed : arguments.listenAddress with
  | none =>
    rw [addressed] at settled
    cases settled
  | some text =>
    rw [addressed] at settled
    obtain ⟨there, read, settled⟩ := ok_of_bind settled
    cases settled
    exact ⟨ok_of_mapError configured, text, rfl, ok_of_mapError read⟩

/-- A service that is ready has been made of settings that are all right. -/
theorem settled_of_ready {logLevel : String} {address : Web.Address} {service : Service}
    (started : start surroundings words = .ready logLevel address service) :
    ∃ arguments config, CommandLine.read surroundings.preset words = .ok (.run arguments) ∧
      settingsOf surroundings arguments = .ok (config, address) ∧
      Fleet.ofConfig config = .ok service.fleet := by
  unfold start at started
  split at started
  · cases started
  · cases started
  · rename_i arguments asked
    split at started
    · cases started
    · split at started
      · cases started
      · -- Only a launch makes a service.
        unfold launch at started
        dsimp only at started
        split at started
        · split at started <;> cases started
        · rename_i config own settled
          split at started
          · cases started
          · rename_i made served
            cases started
            obtain ⟨fleet, configured, made⟩ := ok_of_bind served
            cases made
            exact ⟨arguments, config, asked, settled, configured⟩

/-- The words ask for a service, and the level of its journal has a value. -/
structure AsksForService (surroundings : Surroundings) (words : List String) (arguments : Arguments) :
    Prop where
  read : CommandLine.read surroundings.preset words = .ok (.run arguments)
  levelled : ∃ word, arguments.logLevel = some word
  serves : arguments.listsCollectors = false

/-- The program has ended with the status for faults of the settings. -/
def Start.Refuses (start : Start) : Prop :=
  ∃ transcript, start = .ended transcript ∧ transcript.ending = .status misconfigured

/-- Settings with a fault that is foreseen end the program with the status for that. -/
theorem refuses_of_settingsOf {fault : Fault} (asks : AsksForService surroundings words arguments)
    (refused : settingsOf surroundings arguments = .error fault) (foreseen : fault.isForeseen = true) :
    (start surroundings words).Refuses := by
  -- The level and the settings are all that stand before the service.
  obtain ⟨word, level⟩ := asks.levelled
  unfold start launch
  simp only [asks.read, level, Option.map_some, asks.serves, refused, foreseen]
  exact ⟨_, rfl, rfl⟩

/-- An address without a port ends the program where the configuration is all right. -/
theorem refuses_of_address {config : Config} {text : String}
    (asks : AsksForService surroundings words arguments)
    (configured : configOf surroundings arguments = .ok config)
    (addressed : arguments.listenAddress = some text) (none : ∀ port, ¬ Web.PortIn text port) :
    (start surroundings words).Refuses := by
  cases read : Web.Address.read text with
  -- An address that is read has a port.
  | ok address => exact absurd (Web.exists_read_iff.mp ⟨address.host, read⟩) (none address.port)
  | error fault =>
    have refused : settingsOf surroundings arguments = .error (.address fault) := by
      rw [settingsOf, configured, addressed]
      simp only [Except.mapError, Bind.bind, Except.bind, read]
    exact refuses_of_settingsOf asks refused rfl

section Launched

variable {source : Source} (launches : Launches surroundings words arguments source)

include launches

/-- Words that launch a service ask for one. -/
theorem Launches.asks : AsksForService surroundings words arguments :=
  ⟨launches.read, launches.levelled, launches.serves⟩

/-- The service is ready exactly if the document is accepted, and the address has a port. -/
theorem ready_iff :
    (∃ logLevel address service, start surroundings words = .ready logLevel address service) ↔
      (∃ config, Config.loadSource Collector.names source = .ok config) ∧
        ∃ text port, arguments.listenAddress = some text ∧ Web.PortIn text port := by
  constructor
  · -- Settings are made of the document that the words name, and of the address in them.
    rintro ⟨logLevel, address, service, started⟩
    obtain ⟨own, config, asked, settled, -⟩ := settled_of_ready started
    obtain rfl : own = arguments := by
      cases asked.symm.trans launches.read
      rfl
    obtain ⟨configured, text, addressed, read⟩ := settingsOf_ok settled
    refine ⟨?_, text, address.port, addressed, Web.exists_read_iff.mp ⟨address.host, read⟩⟩
    obtain ⟨source', own, held, loaded, -⟩ := configOf_file configured launches.named.1
    exact ⟨own, held.unique launches.held ▸ loaded⟩
  · rintro ⟨⟨config, loaded⟩, text, port, addressed, told⟩
    obtain ⟨draft, ⟨document, entries, parsed, -⟩, made⟩ := Config.loadSource_ok loaded
    have registered : ∀ flag ∈ arguments.enabledNames, flag ∈ Collector.names :=
      fun flag listed => List.mem_of_mem_filter listed
    -- Every loaded configuration has a fleet, also with the collectors of the flags.
    obtain ⟨fleet, configured, -⟩ := Fleet.ofConfig_loaded made registered
    obtain ⟨host, read⟩ := Web.exists_read_iff.mpr told
    have settled : settingsOf surroundings arguments =
        .ok (config.enable arguments.enabledNames, ⟨host, port⟩) := by
      rw [settingsOf, configOf_launched launches parsed, loaded, addressed]
      simp only [Except.map, Except.mapError, Bind.bind, Except.bind, read]
      rfl
    obtain ⟨logLevel, journal, started⟩ := start_launched launches
    unfold launch serviceFor at started
    simp only [settled, configured] at started
    exact ⟨_, _, _, started⟩

/-- A number that is none ends the program, where all else but the devices is accepted. -/
theorem refuses_of_number {outline : Config.Outline} {items : List Device.Fields}
    (shows : Config.outlineOf? source = some outline)
    (devices : outline.devices = .ok (items.map some))
    (accepts : outline.AcceptsRest Collector.names)
    (numerals : ∀ fields ∈ items, ∀ value, fields.GivesNumber value → Config.IsNumeral value)
    {fields : Device.Fields} (member : fields ∈ items) {value : Yaml.Value}
    (given : fields.GivesNumber value) (none : ∀ n, ¬ Config.StandsFor value n) :
    (start surroundings words).Refuses := by
  -- The document is refused for its shape, which is a foreseen fault.
  obtain ⟨shape, refused, foreseen⟩ :=
    Config.loadSource_refused shows devices accepts numerals member given none
  obtain ⟨document, parsed⟩ := Config.exists_document_of_outlineOf? shows
  exact refuses_of_settingsOf launches.asks (settingsOf_refused launches parsed refused) foreseen

end Launched

/-- An option for a number that has something else ends the program, unless help is asked for. -/
theorem ended_of_givesNoNumber (misgiven : CommandLine.GivesNoNumber surroundings.preset words) :
    ∃ transcript, start surroundings words = .ended transcript ∧
      (transcript.ending = .status refused ∨ transcript.ending = .status success) := by
  unfold start
  cases asked : CommandLine.read surroundings.preset words with
  | error refusal => exact ⟨_, rfl, .inl rfl⟩
  | ok demand =>
    cases demand with
    | help => exact ⟨_, rfl, .inr rfl⟩
    -- With something else than a number nothing is run.
    | run arguments => exact absurd asked misgiven.not_run

end Starting

/-- What the numbers of a service are taken from. -/
structure NumbersTold (surroundings : Surroundings) (words : List String) (address : Web.Address)
    (service : Service) (arguments : Arguments) : Prop where
  read : CommandLine.read surroundings.preset words = .ok (.run arguments)
  /-- The port is the last number that the words give to its option, or the preset one. -/
  port : arguments.device.port =
    (numbersFor surroundings.preset "--deviceport" words).getLast?.or surroundings.preset.device.port
  /-- The timeout is the last number that the words give to its option, or the preset one. -/
  timeout : arguments.device.timeout =
    (numbersFor surroundings.preset "--timeout" words).getLast?.getD surroundings.preset.device.timeout
  /-- The numbers of the command line are preset, or written at the end of one of its words. -/
  written : arguments.NumbersFrom surroundings.preset (WrittenIn (endsOf words))
  devices : DevicesTold surroundings arguments (service.fleet.members.map Fleet.Member.device)
  listening : ∃ text, arguments.listenAddress = some text ∧ Web.PortIn text address.port
  nonneg : 0 ≤ address.port

/--
The numbers of settings are whole numbers of any size, taken as they are given.

The devices that are loaded have the numbers that their settings stand for, and a document with other
whole numbers in their places is accepted as well. A service that is ready has the devices of the file or
the single device of the arguments, and it listens on the port behind the last colon of its address; with
a file that is accepted it is ready exactly if there is such a port. The port and the timeout of the
arguments are the last numbers given to their own options, or the preset ones, and a number of any size
that is given to one of these options is taken.

Everything else is refused before the service starts: an address without a port ends the program with the
status for faults of the settings, and so does a number of a device that is none, unless some value in the
place of a number is neither a number nor a text. An option that is given no number ends it with the status
for command lines, unless help is asked for before.
-/
theorem numbers_taken_as_given :
    -- The numbers of a document are those that its settings stand for.
    (∀ known source config, Config.loadSource known source = .ok config →
      ∃ items, DevicesIn source items ∧
        List.Forall₂ TakenFrom (enabledFields items) config.devices) ∧
    -- No size of a number is refused.
    (∀ known source source' outline items others,
      Config.outlineOf? source =
        some { (outline : Config.Outline) with devices := .ok (items.map some) } →
      Config.outlineOf? source' = some { outline with devices := .ok (others.map some) } →
      List.Forall₂ Device.Fields.OtherNumbers items others →
      ((∃ config, Config.loadSource known source = .ok config) ↔
        ∃ config, Config.loadSource known source' = .ok config)) ∧
    -- The numbers of a service are told by the command line and the file.
    (∀ surroundings words logLevel address service,
      start surroundings words = .ready logLevel address service →
        ∃ arguments, NumbersTold surroundings words address service arguments) ∧
    -- On the command line a number of any size is taken, into the place of its option.
    (∀ preset words arguments text n, CommandLine.read preset words = .ok (.run arguments) →
      Decimal.readInteger text = .ok n →
      CommandLine.read preset (words ++ ["--deviceport=" ++ text]) =
          .ok (.run { arguments with device := { arguments.device with port := some n } }) ∧
        CommandLine.read preset (words ++ ["--timeout=" ++ text]) =
          .ok (.run { arguments with device := { arguments.device with timeout := n } })) ∧
    -- With a file the service is ready exactly if this is accepted and the address has a port.
    (∀ surroundings words arguments source, Launches surroundings words arguments source →
      ((∃ logLevel address service,
          start surroundings words = .ready logLevel address service) ↔
        (∃ config, Config.loadSource Collector.names source = .ok config) ∧
          ∃ text port, arguments.listenAddress = some text ∧ Web.PortIn text port)) ∧
    -- Settings with an address without a port are refused.
    (∀ surroundings words arguments config text, AsksForService surroundings words arguments →
      configOf surroundings arguments = .ok config → arguments.listenAddress = some text →
      (∀ port, ¬ Web.PortIn text port) → (start surroundings words).Refuses) ∧
    -- So are those with a number of a device that is none.
    (∀ surroundings words arguments source outline items,
      Launches surroundings words arguments source → Config.outlineOf? source = some outline →
      outline.devices = .ok (items.map some) → outline.AcceptsRest Collector.names →
      (∀ fields ∈ items, ∀ value, fields.GivesNumber value → Config.IsNumeral value) →
      (∃ fields ∈ enabledFields items, ∃ value, fields.GivesNumber value ∧
        ∀ n, ¬ Config.StandsFor value n) →
      (start surroundings words).Refuses) ∧
    -- With an option for a number that is none, no settings are looked at.
    ∀ surroundings words, CommandLine.GivesNoNumber surroundings.preset words →
      ∃ transcript, start surroundings words = .ended transcript ∧
        (transcript.ending = .status refused ∨ transcript.ending = .status success) := by
  refine ⟨fun known source config => Config.takenFrom_of_loadSource,
    fun known source source' outline items others =>
      Config.exists_loadSource_iff_otherNumbers, ?_,
    fun preset words arguments text n asked told => CommandLine.read_number_concat asked told,
    fun surroundings words arguments source => ready_iff,
    fun surroundings words arguments config text => refuses_of_address, ?_,
    fun surroundings words => ended_of_givesNoNumber⟩
  · intro surroundings words logLevel address service started
    obtain ⟨arguments, config, read, settled, configured⟩ := settled_of_ready started
    obtain ⟨own, text, addressed, told⟩ := settingsOf_ok settled
    have port : Web.PortIn text address.port := Web.exists_read_iff.mp ⟨address.host, told⟩
    refine ⟨arguments, ?_⟩
    exact
      { read
        port := CommandLine.port_read read
        timeout := CommandLine.timeout_read read
        written := CommandLine.numbersFrom_read read
        devices := devices_of_ofConfig configured ▸ devicesTold_of_configOf own
        listening := ⟨text, addressed, port⟩
        nonneg := port.nonneg }
  · rintro surroundings words arguments source outline items launches shows devices accepts numerals
      ⟨fields, enabled, value, given, none⟩
    exact refuses_of_number launches shows devices accepts numerals (List.mem_of_mem_filter enabled)
      given none

/-- A document of one device with a port and a timeout. -/
def numberedSource (port timeout : String) : Source :=
  ⟨("devices:\n- \x7bname: gw1, address: 10.0.0.1, user: u, password: p, port: " ++ port ++
    ", timeout: " ++ timeout ++ "\x7d\n").toList, none⟩

/-- A directory with that document in a file. -/
def numberedSurroundings (port timeout : String) : Surroundings where
  preset := {}
  environment := .empty
  files := Config.Directory.read
    ⟨[("c.yml", (numberedSource port timeout).text.map fun c => UInt8.ofNat c.toNat)]⟩
  network := .ofAttempts .empty

/-- The words that ask for a service with that file on an address. -/
def numberedWords (address : String) : List String :=
  ["--config-file", "c.yml", "--listen-address", address]

/-- The numbers of a service that is ready: the port it listens on, and those of its devices. -/
def Start.numbers? : Start → Option (Int × List (Option Int × Int))
  | .ended _ => none
  | .ready _ address service => some (address.port, service.fleet.members.map fun member =>
      (member.device.port, member.device.timeout))

/-- A service is ready if it has numbers. -/
theorem ready_of_numbers? {start : Start} {port : Int} {numbers : List (Option Int × Int)}
    (shown : start.numbers? = some (port, numbers)) :
    ∃ logLevel address service, start = .ready logLevel address service ∧ address.port = port ∧
      service.fleet.members.map (fun member => (member.device.port, member.device.timeout)) =
        numbers := by
  -- A program that has ended shows no numbers.
  cases start with
  | ended transcript => cases shown
  | ready logLevel address service =>
    cases shown
    exact ⟨_, _, _, rfl, rfl, rfl⟩

/-- Ports above all others and a timeout below zero are accepted and served. -/
theorem numbers_beyond_ranges :
    ∃ logLevel address service,
      start (numberedSurroundings "70000" "-1") (numberedWords ":70000") =
        .ready logLevel address service ∧
      ¬ (0 ≤ address.port ∧ address.port ≤ 65535) ∧
      ∃ member ∈ service.fleet.members, member.device.port = some 70000 ∧
        member.device.timeout < 1 := by
  -- The start is computed once, and only its numbers are looked at.
  have shown : (start (numberedSurroundings "70000" "-1") (numberedWords ":70000")).numbers? =
      some (70000, [(some 70000, -1)]) := by decide +kernel
  obtain ⟨logLevel, address, service, ready, port, numbers⟩ := ready_of_numbers? shown
  obtain ⟨member, others, members, own, -⟩ := List.map_eq_cons_iff.mp numbers
  obtain ⟨devicePort, timeout⟩ := Prod.mk.inj own
  refine ⟨logLevel, address, service, ready, by omega, member, members ▸ List.mem_cons_self,
    devicePort, by omega⟩

/-- What is computed of the device in such a document, for numbers that are texts or others. -/
def numberedShown (port timeout : Option String) (isReadable : Bool) : Device.Shown where
  texts := [some (some "gw1"), some (some "10.0.0.1"), some (some "u"), some (some "p"), none,
    some port, some timeout, none, none, none, none]
  isDisabled := false
  isReadable

/-- The outline of such a document has one device only. -/
theorem exists_device_of_numbered (source : Source) (shown : Device.Shown)
    (computed : (Config.outlineOf? source).map Config.Outline.shown =
      some (.ok 0, .ok 0, .ok [some shown])) :
    ∃ fields : Device.Fields, fields.shown = shown ∧
      Config.outlineOf? source = some ⟨.ok .empty, .ok [], .ok ([fields].map some)⟩ := by
  -- The outline shows one device, so that it has one.
  obtain ⟨items, shows, known⟩ := Config.exists_devices_of_shown source [shown] computed
  obtain ⟨fields, rest, rfl, own, none⟩ := List.map_eq_cons_iff.mp known
  obtain rfl := List.map_eq_nil_iff.mp none
  exact ⟨fields, own, shows⟩

/-- The devices of two such documents with whole numbers differ in these only. -/
theorem otherNumbers_of_numbered {fields others : Device.Fields}
    {port timeout port' timeout' : Option String}
    (own : fields.shown = numberedShown port timeout true)
    (other : others.shown = numberedShown port' timeout' true) : fields.OtherNumbers others where
  agree name member notPort notTimeout := by
    -- The port and the timeout stand between the texts and the flags.
    let names := Device.textFields ++ ["tls", "insecure", "disabled", "ipv6_disabled"]
    have rest : ∀ {fields : Device.Fields} {port timeout : Option String},
        fields.shown = numberedShown port timeout true →
          names.map (fun name => (fields name).map Config.plainText?) =
            [some "gw1", some "10.0.0.1", some "u", some "p", none, none, none, none, none].map
              (Option.map some) :=
      fun shown => congrArg (fun shown => shown.texts.take 5 ++ shown.texts.drop 7) shown
    refine Config.agree_of_shown (rest own) (rest other) name ?_
    simp only [Device.fieldNames, List.mem_append, List.mem_cons, notPort, notTimeout] at member
    simpa [names] using member
  whole value given := Config.standsFor_of_isReadable
    (Config.isReadable_shown.mp (congrArg Device.Shown.isReadable own)) given
  whole' value given := Config.standsFor_of_isReadable
    (Config.isReadable_shown.mp (congrArg Device.Shown.isReadable other)) given

/-- Texts that are shown for the numbers of a device are its values for them. -/
theorem numbers_of_numbered {fields : Device.Fields} {port timeout : String} {isReadable : Bool}
    (own : fields.shown = numberedShown (some port) (some timeout) isReadable) :
    fields "port" = some (.text port) ∧ fields "timeout" = some (.text timeout) := by
  -- The port and the timeout stand behind five other fields.
  have numbers : [(fields "port").map Config.plainText?, (fields "timeout").map Config.plainText?] =
      [(some port).map some, (some timeout).map some] :=
    congrArg (fun shown => (shown.texts.drop 5).take 2) own
  obtain ⟨port, timeout, -⟩ := List.cons_eq_cons.mp numbers |>.imp_right List.cons_eq_cons.mp
  exact ⟨Config.eq_of_map_plainText? port, Config.eq_of_map_plainText? timeout⟩

/-- Texts for the numbers of a device are numerals, whether they are numbers or not. -/
theorem isNumeral_of_numbered {fields : Device.Fields} {port timeout : String} {isReadable : Bool}
    (own : fields.shown = numberedShown (some port) (some timeout) isReadable) {value : Yaml.Value}
    (given : fields.GivesNumber value) : Config.IsNumeral value := by
  -- A number is given for the port or for the timeout, and both are texts.
  obtain ⟨port, timeout⟩ := numbers_of_numbered own
  rcases Config.Device.Fields.GivesNumber.said given with said | said
  · obtain rfl := Option.some.inj (port.symm.trans said)
    exact True.intro
  · obtain rfl := Option.some.inj (timeout.symm.trans said)
    exact True.intro

/-- The words launch a service with the document, whatever its numbers are. -/
theorem launches_numbered (setting : String × String × String)
    (member : setting ∈ [("70000", "-1", ":70000"), ("70000", "-1", "9436"), ("abc", "'5'", ":9436")]) :
    Launches (numberedSurroundings setting.1 setting.2.1) (numberedWords setting.2.2)
      { configFile := "c.yml", listenAddress := setting.2.2 }
      (numberedSource setting.1 setting.2.1) := by
  -- Each of the three settings is checked by itself.
  fin_cases member <;> exact
    { read := by decide +kernel
      levelled := ⟨_, rfl⟩
      addressed := ⟨_, rfl⟩
      serves := rfl
      named := by decide
      held := ⟨_, rfl, by decide +kernel⟩ }

/-- The document with large numbers is accepted. -/
theorem exists_loadSource_numbered :
    ∃ config, Config.loadSource Collector.names (numberedSource "70000" "-1") = .ok config := by
  -- Loading is computed, and only its success is looked at.
  have accepted : (Config.loadSource Collector.names (numberedSource "70000" "-1")).toOption.isSome =
      true := by decide +kernel
  obtain ⟨config, loaded⟩ := Option.isSome_iff_exists.mp accepted
  exact ⟨config, ok_of_toOption loaded⟩

/-- Digits without a colon are no address. -/
theorem not_portIn_digits (port : Int) : ¬ Web.PortIn "9436" port := by
  -- A port in an address would let it be read.
  intro told
  obtain ⟨host, read⟩ := Web.exists_read_iff.mpr told
  have refused : (Web.Address.read "9436").toOption = none := by decide +kernel
  rw [read] at refused
  cases refused

/-- Letters stand for no number. -/
theorem not_standsFor_letters (n : Int) : ¬ Config.StandsFor (.text "abc") n := by
  -- A number that the letters stood for would be read.
  intro stands
  have refused : (Config.integerOf (.text "abc")).toOption = none := by decide +kernel
  rw [Config.integerOf_eq_ok_iff.mpr stands] at refused
  cases refused

/-- Large numbers are taken as they are, and what is no number is refused. -/
theorem large_numbers_taken :
    (∃ logLevel address service arguments,
      start (numberedSurroundings "70000" "-1") (numberedWords ":70000") =
          .ready logLevel address service ∧
        NumbersTold (numberedSurroundings "70000" "-1") (numberedWords ":70000") address service
          arguments) ∧
      (∃ arguments, CommandLine.read {} ["--deviceport=-1", "--deviceport=70000", "--timeout=-5"] =
          .ok (.run arguments) ∧
        arguments.device.port = some 70000 ∧ arguments.device.timeout = -5) ∧
      (∃ config items, Config.loadSource Collector.names (numberedSource "1" "'2'") = .ok config ∧
        DevicesIn (numberedSource "1" "'2'") items ∧
        List.Forall₂ TakenFrom (enabledFields items) config.devices) ∧
      (start (numberedSurroundings "70000" "-1") (numberedWords "9436")).Refuses ∧
      (start (numberedSurroundings "abc" "'5'") (numberedWords ":9436")).Refuses ∧
      (∃ transcript, start (numberedSurroundings "1" "2") ["--timeout=abc"] = .ended transcript ∧
        (transcript.ending = .status refused ∨ transcript.ending = .status success)) := by
  obtain ⟨taken, sizes, told, given, served, addresses, numbers, options⟩ := numbers_taken_as_given
  refine ⟨?served, ?given, ?accepted, ?noAddress, ?noNumber, ?noOption⟩
  case served =>
    have launches := launches_numbered ("70000", "-1", ":70000") (by simp)
    have port : Web.PortIn ":70000" 70000 := Web.exists_read_iff.mp ⟨"", by decide +kernel⟩
    obtain ⟨logLevel, address, service, ready⟩ :=
      (served _ _ _ _ launches).mpr ⟨exists_loadSource_numbered, ":70000", 70000, rfl, port⟩
    obtain ⟨arguments, numbered⟩ := told _ _ _ _ _ ready
    exact ⟨logLevel, address, service, arguments, ready, numbered⟩
  case given =>
    -- Of two ports the later one is taken.
    have first := (given {} [] _ "-1" (-1) rfl (by decide +kernel)).1
    have second := (given {} _ _ "70000" 70000 first (by decide +kernel)).1
    exact ⟨_, (given {} _ _ "-5" (-5) second (by decide +kernel)).2, rfl, rfl⟩
  case accepted =>
    obtain ⟨fields, own, shows⟩ := exists_device_of_numbered (numberedSource "70000" "-1")
      (numberedShown none none true) (by decide +kernel)
    obtain ⟨others, other, shows'⟩ := exists_device_of_numbered (numberedSource "1" "'2'")
      (numberedShown none (some "2") true) (by decide +kernel)
    have same := otherNumbers_of_numbered own other
    obtain ⟨config, loaded⟩ := (sizes _ _ _ ⟨.ok .empty, .ok [], .ok []⟩ [fields] [others] shows shows'
      (.cons same .nil)).mp exists_loadSource_numbered
    obtain ⟨items, there, own⟩ := taken _ _ _ loaded
    exact ⟨config, items, loaded, there, own⟩
  case noAddress =>
    have launches := launches_numbered ("70000", "-1", "9436") (by simp)
    obtain ⟨config, loaded⟩ := exists_loadSource_numbered
    obtain ⟨draft, ⟨document, entries, parsed, -⟩, -⟩ := Config.loadSource_ok loaded
    have configured := configOf_launched launches parsed
    rw [loaded] at configured
    exact addresses _ _ _ _ "9436" launches.asks configured rfl not_portIn_digits
  case noNumber =>
    obtain ⟨fields, own, shows⟩ := exists_device_of_numbered (numberedSource "abc" "'5'")
      (numberedShown (some "abc") (some "5") false) (by decide +kernel)
    have enabled : fields.flag "disabled" = false := congrArg Device.Shown.isDisabled own
    have numerals : ∀ others ∈ [fields], ∀ value, others.GivesNumber value → Config.IsNumeral value := by
      intro others member value given
      obtain rfl := List.mem_singleton.mp member
      exact isNumeral_of_numbered own given
    have given : fields.GivesNumber (.text "abc") :=
      .inl ⟨(numbers_of_numbered own).1, by simp [Config.IsNoPort, Yaml.Value.text, Yaml.Value.null]⟩
    have accepts : Config.Outline.AcceptsRest Collector.names
        ⟨.ok .empty, .ok [], .ok ([fields].map some)⟩ := ⟨_, rfl⟩
    have launches := launches_numbered ("abc", "'5'", ":9436") (by simp)
    exact numbers _ _ _ _ _ [fields] launches shows rfl accepts numerals
      ⟨fields, by simp [enabledFields, enabled], _, given, not_standsFor_letters⟩
  case noOption =>
    have illegible : ∀ n, Decimal.readInteger "abc" ≠ .ok n :=
      fun n read => not_standsFor_letters n (.written read)
    have named : ∃ option, CommandLine.classify (CommandLine.parameters {}) "--timeout=abc" =
        .ok (.option option (.afterEquals "abc")) ∧ option.TakesNumber :=
      ⟨_, rfl, _, rfl⟩
    obtain ⟨option, named, takes⟩ := named
    exact options (numberedSurroundings "1" "2") _
      (.attached (List.not_mem_nil) (by decide) named takes (by decide) illegible)

end RouterMetrics.Program
