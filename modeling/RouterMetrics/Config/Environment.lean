import RouterMetrics.Config.Basic
import RouterMetrics.Journal
import RouterMetrics.Text.Blank

/-! Settings outside of files: the environment, and a single device given by its parts. -/

namespace RouterMetrics.Config

/-- Names and their values around the program. -/
abbrev Environment := OrderedMap String String

/-- The value of a name without white space around it; empty where there is none. -/
def Environment.setting (environment : Environment) (name : String) : String :=
  Text.trimmed (environment.getD name "")

/-- What the entries about settings come from. -/
def journalSource : String := "Config"

/-- The levels of the journal. -/
def logLevels : List String := ["DEBUG", "INFO", "WARNING", "ERROR", "CRITICAL"]

/-- The level where nothing else is said. -/
def defaultLogLevel : String := "INFO"

/-- The level that a word stands for in letters of either case; an unknown word is reported. -/
def logLevelOf (word : String) : String × List Entry :=
  let level := String.ofList (word.toList.map Text.plainCapital)
  if logLevels.contains level then (level, [])
  else
    (defaultLogLevel,
      [⟨.warning, journalSource,
        s!"Config: LOG_LEVEL='{word}' is invalid, defaulting to {defaultLogLevel}", none⟩])

/-- A text, or another one in place of the empty one. -/
def orElse (text other : String) : String := if text.isEmpty then other else text

/-- The level of the journal in an environment. -/
def logLevelIn (environment : Environment) : String × List Entry :=
  logLevelOf (orElse (environment.setting "LOG_LEVEL") defaultLogLevel)

/-- The address to listen on where nothing else is said. -/
def defaultListenAddress : String := ":9436"

/-- The address to listen on in an environment. -/
def listenAddressIn (environment : Environment) : String :=
  orElse (environment.setting "LISTEN_ADDRESS") defaultListenAddress

/-- The configuration of a single device; its credentials may come from the environment. -/
def single (environment : Environment) (device : Device) : Except Fault Config :=
  let device := { device with
    user := orElse device.user (environment.setting "MIKROTIK_USER")
    password := orElse device.password (environment.setting "MIKROTIK_PASSWORD") }
  match Field.all.filter fun field => (device.field field).isEmpty with
  | [] => .ok ⟨[device], Features.enable .empty alwaysEnabled, .empty⟩
  | missing => .error (.missingParameters (missing.map Problem.missingParameter))

end RouterMetrics.Config
