import RouterMetrics.Collector.Conntrack
import RouterMetrics.Collector.Dhcp
import RouterMetrics.Collector.DhcpLease
import RouterMetrics.Collector.Firmware
import RouterMetrics.Collector.Health
import RouterMetrics.Collector.Interface
import RouterMetrics.Collector.Monitor
import RouterMetrics.Collector.Netwatch
import RouterMetrics.Collector.Optics
import RouterMetrics.Collector.Poe
import RouterMetrics.Collector.Pool
import RouterMetrics.Collector.Queue
import RouterMetrics.Collector.Resource
import RouterMetrics.Collector.Routes
import RouterMetrics.Collector.WirelessInterface
import RouterMetrics.Collector.WirelessStation
import RouterMetrics.Text.Case

/-! The registry: every collector under the name by which it is enabled. -/

namespace RouterMetrics.Collector

/-- All collectors. -/
def all : List Collector :=
  [Resource.collector,
    Interface.collector,
    Health.collector,
    DhcpLease.collector,
    Pool.collector,
    Conntrack.collector,
    Netwatch.collector,
    Firmware.collector,
    WirelessStation.collector,
    Dhcp.collector,
    Routes.collector,
    Queue.collector,
    Monitor.collector,
    WirelessInterface.collector,
    Optics.collector,
    Poe.collector]

/-- The names of all collectors. -/
def names : List String := all.map Collector.name

/-- The collector that is enabled by a name in letters of either case. -/
def find? (name : String) : Option Collector :=
  all.find? fun collector => collector.name == Text.lowercase name

end RouterMetrics.Collector
