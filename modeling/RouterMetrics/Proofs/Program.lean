import RouterMetrics.Program
import RouterMetrics.Proofs.Config.Shapes
import RouterMetrics.Proofs.Fleet.Assembly

/-!
The program with a configuration file of any shape.

Main statement: a file that holds a document is loaded or refused as a configuration exactly if what
is read of it has the shape for it, and the program starts or ends with the status for that exactly
if nothing in it has a shape that nobody foresaw.
-/

namespace RouterMetrics.Program

open RouterMetrics.CommandLine (Arguments)
open RouterMetrics.Config (Reported WellShaped)
open RouterMetrics.Yaml (Document Source)

/-- The words ask for a service with the configuration in a file, and the file has this source. -/
structure Launches (surroundings : Surroundings) (words : List String) (arguments : Arguments)
    (source : Source) : Prop where
  read : CommandLine.read surroundings.preset words = .ok (.run arguments)
  /-- The level of the journal and the address to listen on have values. -/
  levelled : ∃ word, arguments.logLevel = some word
  addressed : ∃ text, arguments.listenAddress = some text
  /-- The collectors are not just listed. -/
  serves : arguments.listsCollectors = false
  named : arguments.configFile ≠ "" ∧ '\x00' ∉ arguments.configFile.toList
  held : ∃ bytes, surroundings.files arguments.configFile = .ok bytes ∧
    Config.sourceOf (Text.blocksOf Config.blockSize bytes).1
      (Text.blocksOf Config.blockSize bytes).2 = .ok source

/-- The service is ready, or the program has ended with the status for faults of the settings. -/
def Start.StartsOrRefuses : Start → Prop
  | .ready .. => True
  | .ended transcript => transcript.ending = .status misconfigured

variable {surroundings : Surroundings} {words : List String} {arguments : Arguments}

/-- Settings with a fault end the program with the status for that exactly if the fault is
foreseen. -/
theorem launch_of_fault {fault : Fault} (refused : settingsOf surroundings arguments = .error fault)
    (logLevel : String) (journal : List Entry) :
    (launch surroundings arguments logLevel journal).StartsOrRefuses ↔ fault.isForeseen = true := by
  -- A fault that is not foreseen is not caught, and ends the program otherwise.
  unfold launch
  rw [refused]
  cases foreseen : fault.isForeseen <;> simp [foreseen, Start.StartsOrRefuses]

/-- With settings of which there is a fleet the service starts. -/
theorem launch_of_fleet {config : Config} {address : Web.Address} {fleet : Fleet}
    (settled : settingsOf surroundings arguments = .ok (config, address))
    (configured : Fleet.ofConfig config = .ok fleet) (logLevel : String) (journal : List Entry) :
    (launch surroundings arguments logLevel journal).StartsOrRefuses := by
  -- With a fleet nothing is left that could fail.
  unfold launch serviceFor
  rw [settled]
  dsimp only
  rw [configured]
  trivial

section Launched

variable {source : Source} {document? : Option Document}
  (launches : Launches surroundings words arguments source)
  (parsed : Document.ofSource? source = .ok document?)

include launches

/-- The words start what they ask for. -/
theorem start_launched : ∃ logLevel journal,
    start surroundings words = launch surroundings arguments logLevel journal := by
  -- The words are read, and their level is known.
  obtain ⟨word, level⟩ := launches.levelled
  refine ⟨(Config.logLevelOf word).1, (Config.logLevelOf word).2, ?_⟩
  unfold start
  rw [launches.read]
  simp [level, launches.serves]

include parsed

/-- The configuration is that of the source, with everything enabled that the words enable. -/
theorem configOf_launched : configOf surroundings arguments =
    (Config.loadSource Collector.names source).map fun config =>
      config.enable arguments.enabledNames := by
  obtain ⟨bytes, read, held⟩ := launches.held
  obtain ⟨given, path⟩ := launches.named
  unfold configOf Config.loadFile
  rw [if_pos (by simpa using given), if_neg (by simpa using path), read]
  simp only [Except.mapError, bind, Except.bind, held]
  cases loaded : Config.loadSource Collector.names source with
  | ok config => rfl
  | error fault =>
    -- The source has been read up to its end, so nothing is said about where it was cut off.
    rcases Config.isJudged_loadSource parsed fault loaded with known | ⟨shape, rfl⟩
    · dsimp only
      split
      · cases known
      · rfl
    · rfl

/-- A source that is refused is a fault of the settings. -/
theorem settingsOf_refused {fault : Config.Fault}
    (refused : Config.loadSource Collector.names source = .error fault) :
    settingsOf surroundings arguments = .error (.config fault) := by
  -- The source is loaded before the address is looked at.
  rw [settingsOf, configOf_launched launches parsed, refused]
  rfl

/-- Where a source is loaded, only the address to listen on can be a fault of the settings. -/
theorem settingsOf_loaded {config : Config}
    (loaded : Config.loadSource Collector.names source = .ok config) :
    (∃ fault, settingsOf surroundings arguments = .error (.address fault)) ∨
      ∃ address, settingsOf surroundings arguments =
        .ok (config.enable arguments.enabledNames, address) := by
  obtain ⟨text, addressed⟩ := launches.addressed
  rw [settingsOf, configOf_launched launches parsed, loaded, addressed]
  -- What is left of the steps is to read the text of the address.
  change (∃ fault, ((Web.Address.read text).mapError Fault.address >>= fun address =>
      pure (config.enable arguments.enabledNames, address)) = .error (.address fault)) ∨
    ∃ address, ((Web.Address.read text).mapError Fault.address >>= fun address =>
      pure (config.enable arguments.enabledNames, address)) = .ok (_, address)
  cases Web.Address.read text with
  | error fault => exact .inl ⟨fault, rfl⟩
  | ok address => exact .inr ⟨address, rfl⟩

/-- The service starts, or the program ends with the status for faults of the settings, exactly if
nothing in the source has a shape that is not foreseen. -/
theorem startsOrRefuses_iff : (start surroundings words).StartsOrRefuses ↔
    ∀ shape, Config.loadSource Collector.names source = .error (.shape shape) →
      shape.isForeseen = true := by
  obtain ⟨logLevel, journal, started⟩ := start_launched launches
  rw [started]
  cases loaded : Config.loadSource Collector.names source with
  | ok config =>
    -- A configuration that is loaded always has a fleet, so only the address can be refused.
    refine iff_of_true ?_ (by simp)
    obtain ⟨draft, -, made⟩ := Config.loadSource_ok loaded
    obtain ⟨fleet, configured, -⟩ :=
      Fleet.ofConfig_loaded made fun flag listed => List.mem_of_mem_filter listed
    rcases settingsOf_loaded launches parsed loaded with ⟨fault, refused⟩ | ⟨address, settled⟩
    · exact (launch_of_fault refused logLevel journal).mpr rfl
    · exact launch_of_fleet settled configured logLevel journal
  | error fault =>
    rw [launch_of_fault (settingsOf_refused launches parsed loaded)]
    -- A fault of the configuration as such is always foreseen.
    change fault.isForeseen = true ↔ _
    rcases Config.isJudged_loadSource parsed fault loaded with known | ⟨shape, rfl⟩
    · refine iff_of_true (Config.Fault.isForeseen_of_isOfConfiguration known) fun shape same => ?_
      cases same
      cases known
    · simp [Config.Fault.isForeseen]

end Launched

/--
A file that holds a document is loaded or refused as a configuration exactly if everything that is
read of it before the first refusal has the shape for it.

The program with such a file starts its service, or ends with the status for faults of the settings,
exactly if the file is not refused for a shape that nobody foresaw.
-/
theorem bad_configuration_reported_iff {source : Source} {document? : Option Document}
    (parsed : Document.ofSource? source = .ok document?) :
    (Reported (Config.loadSource Collector.names source) ↔
      ∀ document, document? = some document →
        ∀ entries, document.entries? document.root = some entries →
          WellShaped Collector.names document entries) ∧
    ∀ surroundings words arguments, Launches surroundings words arguments source →
      ((start surroundings words).StartsOrRefuses ↔
        ∀ shape, Config.loadSource Collector.names source = .error (.shape shape) →
          shape.isForeseen = true) := by
  -- Loading is judged by the shape, and starting by the fault of loading.
  obtain ⟨some_known, named, -⟩ := Fleet.names_lowercase
  exact ⟨Config.reported_loadSource_iff parsed some_known named,
    fun surroundings words arguments launches => startsOrRefuses_iff launches parsed⟩

/-- A document with a number for the key of a feature. -/
def numberKeySource : Source := ⟨"features:\n  5: true\n".toList, none⟩

/-- A directory with that document in a file. -/
def numberKeySurroundings : Surroundings where
  preset := {}
  environment := .empty
  files := Config.Directory.read
    ⟨[("c.yml", numberKeySource.text.map fun c => UInt8.ofNat c.toNat)]⟩
  network := .ofAttempts .empty

deriving instance DecidableEq for Arguments, CommandLine.Demand, Source

/-- The number is not refused as an unknown key, and it ends the program as nobody foresaw. -/
theorem bad_configuration_of_number_key :
    ∃ document?, Document.ofSource? numberKeySource = .ok document? ∧
      Launches numberKeySurroundings ["--config-file", "c.yml"] { configFile := "c.yml" }
        numberKeySource ∧
      (∃ document entries, document? = some document ∧
        document.entries? document.root = some entries ∧
        ¬WellShaped Collector.names document entries) ∧
      ¬Reported (Config.loadSource Collector.names numberKeySource) ∧
      ¬(start numberKeySurroundings ["--config-file", "c.yml"]).StartsOrRefuses := by
  have held : (Document.ofSource? numberKeySource).toOption.isSome = true := by decide +kernel
  obtain ⟨document?, there⟩ := Option.isSome_iff_exists.mp held
  -- Configurations cannot be compared, so what is computed is the fault alone.
  have told : (Config.loadSource Collector.names numberKeySource).map (fun _ => ()) =
      .error (.shape .notTextKey) := by decide +kernel
  have refused : Config.loadSource Collector.names numberKeySource = .error (.shape .notTextKey) :=
    error_of_map told
  have launches : Launches numberKeySurroundings ["--config-file", "c.yml"]
      { configFile := "c.yml" } numberKeySource :=
    { read := by decide +kernel
      levelled := ⟨_, rfl⟩
      addressed := ⟨_, rfl⟩
      serves := rfl
      named := by decide
      held := ⟨_, rfl, by decide +kernel⟩ }
  obtain ⟨loading, starting⟩ := bad_configuration_reported_iff (ok_of_toOption there)
  have unreported : ¬Reported (Config.loadSource Collector.names numberKeySource) := by
    intro reported
    exact absurd (reported _ refused) (by decide)
  have unforeseen : ¬∀ shape, Config.loadSource Collector.names numberKeySource =
      .error (.shape shape) → shape.isForeseen = true := by
    intro foreseen
    exact absurd (foreseen _ refused) (by decide)
  refine ⟨document?, ok_of_toOption there, launches, ?_, unreported,
    (starting _ _ _ launches).not.mpr unforeseen⟩
  rw [loading] at unreported
  push Not at unreported
  obtain ⟨document, same, entries, root, unshaped⟩ := unreported
  exact ⟨document, entries, same, root, unshaped⟩

end RouterMetrics.Program
