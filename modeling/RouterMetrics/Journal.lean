import RouterMetrics.Collector.Basic

/-! The journal: what the program reports about its own work. -/

namespace RouterMetrics

/-- How serious an entry is. -/
inductive Severity where
  | info
  | warning
  | error
deriving Repr, DecidableEq

/-- The name of a severity. -/
def Severity.name : Severity → String
  | info => "INFO"
  | warning => "WARNING"
  | error => "ERROR"

/-- An entry of the journal, and which part of the program it comes from. -/
structure Entry where
  severity : Severity
  source : String
  message : String
  /-- The fault behind the entry, where nobody foresaw it. -/
  cause : Option Collector.Fault := none

end RouterMetrics
