import RouterMetrics.Exposition
import RouterMetrics.Fleet.Basic
import RouterMetrics.Web.Server

/-! The service: a fleet whose metrics are made anew for every request that asks for them. -/

namespace RouterMetrics

open RouterMetrics.Session (Network)

/-- A service between two requests, and what it has reported so far. -/
structure Service where
  fleet : Fleet
  network : Network
  journal : List Entry
  /-- The path under which the metrics are found. -/
  metricsPath : String

namespace Service

/-- Reports an entry. -/
def report (entry : Entry) : StateM Service Unit :=
  modify fun service => { service with journal := service.journal ++ [entry] }

/-- Scrapes the fleet, every device in some seconds, and makes the page of it. -/
def metrics (seconds : Float) : StateM Service (Except String String) := do
  let service ← get
  let round := service.fleet.collect seconds service.network
  set { service with
    fleet := round.fleet, network := round.network, journal := service.journal ++ round.entries }
  return (Exposition.page round.sink.families).mapError Exposition.faultMessage

/-- Answers a request. -/
def answer (seconds : Float) (request : Web.Request) :
    StateM Service (Except Web.Fault Web.Response) := do
  Web.answer (← get).metricsPath (metrics seconds) report request

/-- Closes the connections to all devices. -/
def close : StateM Service Unit :=
  modify fun service =>
    let (fleet, network) := service.fleet.close service.network
    { service with fleet, network }

end Service

end RouterMetrics
