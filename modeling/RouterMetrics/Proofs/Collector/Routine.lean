import RouterMetrics.Proofs.Collector.SeveralRequests
import RouterMetrics.Proofs.Collector.SingleRequest

/-! Routines: the scripts that the registered collectors perform. -/

namespace RouterMetrics.Collector

/-- A collector with the script that it performs for a target and the conduct of this script. -/
structure Routine where
  collector : Collector
  conduct : Target → Conduct
  scripted : ∀ {target : Target}, target.Plain →
    Scripted (conduct target) (collector.collect target)

/-- The routines of all collectors. -/
def routines : List Routine :=
  [⟨Resource.collector, Resource.conduct, Resource.scripted⟩,
    ⟨Interface.collector, _, fun {target} _ => Interface.scripted target⟩,
    ⟨Health.collector, _, Health.scripted⟩,
    ⟨DhcpLease.collector, _, fun {target} _ => DhcpLease.scripted target⟩,
    ⟨Pool.collector, _, fun {target} _ => Pool.scripted target⟩,
    ⟨Conntrack.collector, _, Conntrack.scripted⟩,
    ⟨Netwatch.collector, _, fun {target} _ => Netwatch.scripted target⟩,
    ⟨Firmware.collector, _, fun {target} _ => Firmware.scripted target⟩,
    ⟨WirelessStation.collector, _, fun {target} _ => WirelessStation.scripted target⟩,
    ⟨Dhcp.collector, _, fun {target} _ => Dhcp.scripted target⟩,
    ⟨Routes.collector, _, fun {target} _ => Routes.scripted target⟩,
    ⟨Queue.collector, _, Queue.scripted⟩,
    ⟨Monitor.collector, _, fun {target} _ => Monitor.scripted target⟩,
    ⟨WirelessInterface.collector, _, fun {target} _ => WirelessInterface.scripted target⟩,
    ⟨Optics.collector, _, fun {target} _ => Optics.scripted target⟩,
    ⟨Poe.collector, _, fun {target} _ => Poe.scripted target⟩]

/-- The routines are those of the registered collectors, in their order. -/
theorem routines_collectors : routines.map Routine.collector = all := rfl

/-- No two routines have collectors of the same name. -/
theorem routines_nodup : (routines.map fun routine => routine.collector.name).Nodup := by decide

/-- No two collectors are registered under one name. -/
theorem all_nodup : (all.map Collector.name).Nodup := routines_nodup

/-- The script of a registered collector on a device; other collectors have none. -/
def scriptOf (collector : Collector) (device : Config.Device) (name : String) : Script Unit :=
  match routines.find? fun routine => routine.collector.name == collector.name with
  | some routine => (routine.scripted (Target.plain_ofDevice device name)).script
  | none => .finish (.ok ())

/-- The script of a routine's collector is that of the routine. -/
theorem scriptOf_routine {routine : Routine} (member : routine ∈ routines) (device : Config.Device)
    (name : String) :
    scriptOf routine.collector device name =
      (routine.scripted (Target.plain_ofDevice device name)).script := by
  -- The search by name ends at this routine.
  have found : routines.find? (fun other => other.collector.name == routine.collector.name) =
      some routine := by
    cases search : routines.find? fun other => other.collector.name == routine.collector.name with
    | none =>
      have missed := List.find?_eq_none.mp search routine member
      simp at missed
    | some other =>
      -- The routine that was found has the same name, and so it is the same routine.
      have sameName : other.collector.name = routine.collector.name := by
        simpa using List.find?_some search
      rw [List.inj_on_of_nodup_map routines_nodup (List.mem_of_find?_eq_some search) member sameName]
  unfold scriptOf
  rw [found]

/-- A registered collector performs its script. -/
theorem perform_scriptOf {collector : Collector} (registered : collector ∈ all)
    (device : Config.Device) (name : String) :
    (scriptOf collector device name).perform = collector.collect (.ofDevice device name) := by
  -- The collector is that of a routine, whose script performs it.
  rw [← routines_collectors] at registered
  obtain ⟨routine, member, rfl⟩ := List.mem_map.mp registered
  rw [scriptOf_routine member]
  exact (routine.scripted _).performs

/-- The script of a registered collector keeps to some conduct. -/
theorem obeys_scriptOf {collector : Collector} (registered : collector ∈ all)
    (device : Config.Device) (name : String) :
    ∃ conduct, (scriptOf collector device name).Obeys conduct := by
  -- The collector is that of a routine, whose script has a conduct.
  rw [← routines_collectors] at registered
  obtain ⟨routine, member, rfl⟩ := List.mem_map.mp registered
  rw [scriptOf_routine member]
  exact ⟨_, (routine.scripted _).obeys⟩

end RouterMetrics.Collector
