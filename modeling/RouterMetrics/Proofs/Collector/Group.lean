import Mathlib
import RouterMetrics.Fleet.Basic

/-! Groups: the names of metrics start with that of their group, by which collectors are told apart. -/

namespace RouterMetrics.Metric

/-- What the name of every metric of a group starts with. -/
def groupStart (group : String) : List Char :=
  (rootName.toList ++ '_' :: group.toList).map fun c => if c == '-' then '_' else c

/-- A name in a group starts with that of the group, whatever follows it. -/
theorem groupStart_prefix {group : String} (named : group.isEmpty = false) (name : String) :
    groupStart group <+: (joinedName group name).toList := by
  have root : rootName.isEmpty = false := by decide
  -- Dashes become underscores after the parts are joined, which leaves the beginning in its place.
  unfold joinedName groupStart
  rw [String.toList_ofList, String.toList_intercalate]
  cases empty : name.isEmpty <;> simp [root, named, empty, List.intercalate]

/-- Names in groups neither of which starts with the other are different. -/
theorem joinedName_ne {group other : String} (named : group.isEmpty = false)
    (namedToo : other.isEmpty = false) (apart : ¬ groupStart group <+: groupStart other)
    (apartToo : ¬ groupStart other <+: groupStart group) (name name' : String) :
    joinedName group name ≠ joinedName other name' := by
  intro same
  have first := groupStart_prefix named name
  have second := groupStart_prefix namedToo name'
  rw [same] at first
  -- Of two beginnings of one text the shorter one is a beginning of the longer one.
  rcases List.prefix_or_prefix_of_prefix first second with shorter | longer
  · exact apart shorter
  · exact apartToo longer

/-- The descriptor is that of a metric in a group. -/
def Descriptor.InGroup (group : String) (descriptor : Descriptor) : Prop :=
  ∃ name, descriptor.name = joinedName group name

namespace Property

/-- All descriptors of the metric are in a group. -/
def InGroup (group : String) (metric : Property) : Prop :=
  ∀ descriptor ∈ metric.descriptors, descriptor.InGroup group

section Builders

variable (group property : String) (labels : List String) (wording : Wording)

/-- A gauge is in its group. -/
@[simp] theorem gauge_inGroup (convert : Converter) :
    (gauge group property labels wording convert).InGroup group := by
  -- The only descriptor is named by the wording of the property.
  intro descriptor member
  exact ⟨wording.nameOf property, by rw [List.mem_singleton.mp member]; rfl⟩

/-- A counter is in its group. -/
@[simp] theorem counter_inGroup (convert : Converter) :
    (counter group property labels wording convert).InGroup group := by
  -- The only descriptor is named by the wording of the property.
  intro descriptor member
  exact ⟨wording.nameOf property, by rw [List.mem_singleton.mp member]; rfl⟩

/-- What is sent and what is received is in one group. -/
@[simp] theorem traffic_inGroup (convert : PairConverter) :
    (Metric.traffic group property labels wording convert).InGroup group := by
  intro descriptor member
  -- The descriptors of both directions differ in the prefix of their names.
  rcases List.mem_cons.mp member with rfl | member
  · exact ⟨_, rfl⟩
  · exact ⟨"tx_" ++ wording.nameOf property, by rw [List.mem_singleton.mp member]; rfl⟩

/-- A gauge of what is there is in its group. -/
@[simp] theorem presence_inGroup : (Metric.presence group property labels wording).InGroup group := by
  -- The only descriptor is named by the wording of the property.
  intro descriptor member
  exact ⟨wording.nameOf property, by rw [List.mem_singleton.mp member]; rfl⟩

/-- A count is in its group. -/
@[simp] theorem count_inGroup (name help : String) (convert : Converter) :
    (count group name labels help convert).InGroup group := by
  -- The only descriptor has the name that is given.
  intro descriptor member
  exact ⟨name, by rw [List.mem_singleton.mp member]; rfl⟩

end Builders

/-- Metrics that are all in a group have descriptors there. -/
theorem descriptors_inGroup {group : String} {metrics : List Property}
    (inside : ∀ metric ∈ metrics, metric.InGroup group) :
    ∀ descriptor ∈ metrics.flatMap descriptors, descriptor.InGroup group := by
  -- A descriptor is one of a metric.
  intro descriptor member
  obtain ⟨metric, metricIn, described⟩ := List.mem_flatMap.mp member
  exact inside metric metricIn descriptor described

end Property

end RouterMetrics.Metric

namespace RouterMetrics.Collector

open RouterMetrics.Metric

/-- The groups of all metrics but those of wireless interfaces. -/
def otherGroups : List String :=
  ["scrape", "system", "interface", "health", "dhcp", "ip_pool", "ip_firewall_connection_tracking",
    "netwatch", "wlan_station", "routes", "simple_queue", "queue", "monitor", "optics", "poe"]

/-- The samples about scrapes are in a group of their own. -/
theorem scrape_inGroup : ∀ descriptor ∈ Fleet.scrapeDescriptors, descriptor.InGroup "scrape" := by
  intro descriptor member
  simp only [Fleet.scrapeDescriptors, List.mem_cons, List.not_mem_nil, or_false] at member
  rcases member with rfl | rfl | rfl <;> exact ⟨_, rfl⟩

private theorem netwatch_inGroup : ∀ metric ∈ Netwatch.metrics, metric.InGroup "netwatch" := by
  -- The states of watched hosts are in a group.
  intro metric member descriptor described
  rw [List.mem_singleton.mp member] at described
  -- The map of states is small enough to be written out.
  simp [states, Property.descriptors, OrderedMap.ofList, OrderedMap.put, OrderedMap.putEntries,
    OrderedMap.empty, OrderedMap.values] at described
  rcases described with rfl | rfl | rfl <;> exact ⟨_, rfl⟩

private theorem routes_inGroup : Routes.total.InGroup "routes" := by
  -- The number of all routes stands beside the numbers by protocol.
  intro descriptor member
  rw [List.mem_singleton.mp member]
  -- The name of the total is that of the group alone.
  exact ⟨"", by rfl⟩

private theorem pool_inGroup : ∀ metric ∈ Pool.metrics, metric.InGroup "ip_pool" := by
  -- The metrics of pools are in a group.
  intro metric member
  simp only [Pool.metrics, List.mem_cons, List.not_mem_nil, or_false] at member
  rcases member with rfl | rfl
  · exact Property.gauge_inGroup _ _ _ _ _
  · intro descriptor described
    exact ⟨"pool_used", by rw [List.mem_singleton.mp described]; rfl⟩

/-- The metrics of every collector but one are in the other groups. -/
theorem collector_inGroup {collector : Collector} (registered : collector ∈ all)
    (other : collector.name ≠ WirelessInterface.collector.name) :
    ∀ descriptor ∈ collector.descriptors, ∃ group ∈ otherGroups, descriptor.InGroup group := by
  -- Most collectors have the metrics of one group.
  have ofGroup : ∀ (group : String) {descriptors : List Descriptor}, group ∈ otherGroups →
      (∀ descriptor ∈ descriptors, descriptor.InGroup group) →
      ∀ descriptor ∈ descriptors, ∃ group ∈ otherGroups, descriptor.InGroup group :=
    fun _ _ known inside descriptor described => ⟨_, known, inside descriptor described⟩
  have ofMetrics : ∀ (group : String) {metrics : List Property}, group ∈ otherGroups →
      (∀ metric ∈ metrics, metric.InGroup group) →
      ∀ descriptor ∈ metrics.flatMap Property.descriptors,
        ∃ group ∈ otherGroups, descriptor.InGroup group :=
    fun group _ known inside => ofGroup group known (Property.descriptors_inGroup inside)
  -- The collectors are gone through in the order in which they are registered.
  simp only [all, List.mem_cons, List.not_mem_nil, or_false] at registered
  rcases registered with rfl | rfl | rfl | rfl | rfl | rfl | rfl | rfl | rfl | rfl | rfl | rfl |
    rfl | rfl | rfl | rfl
  · intro descriptor described
    rcases List.mem_append.mp described with metric | version
    · exact ofMetrics "system" (by decide) (by simp [Resource.metrics]) descriptor metric
    · exact ⟨"system", by decide, "routeros", by rw [List.mem_singleton.mp version]; rfl⟩
  · exact ofMetrics "interface" (by decide) (by simp [Interface.metrics])
  · exact ofMetrics "health" (by decide) (by simp [Health.metrics])
  · exact ofMetrics "dhcp" (by decide) (by simp [DhcpLease.metrics])
  · exact ofMetrics "ip_pool" (by decide) pool_inGroup
  · exact ofMetrics "ip_firewall_connection_tracking" (by decide) (by simp [Conntrack.metrics])
  · exact ofMetrics "netwatch" (by decide) netwatch_inGroup
  · exact ofMetrics "system" (by decide) (by simp [Firmware.metrics])
  · exact ofMetrics "wlan_station" (by decide) (by simp [WirelessStation.metrics])
  · have leases : Dhcp.activeLeases.InGroup "dhcp" := Property.count_inGroup _ _ _ _ _
    exact ofGroup "dhcp" (by decide) leases
  · intro descriptor described
    rcases List.mem_append.mp described with all | some
    · exact ofGroup "routes" (by decide) routes_inGroup descriptor all
    · exact ofGroup "routes" (by decide) (Property.count_inGroup _ _ _ _ _) descriptor some
  · intro descriptor described
    change descriptor ∈ (Queue.metrics ++ Queue.totals).flatMap Property.descriptors at described
    rw [List.flatMap_append] at described
    rcases List.mem_append.mp described with simple | total
    · exact ofMetrics "simple_queue" (by decide) (by simp [Queue.metrics]) descriptor simple
    · exact ofMetrics "queue" (by decide) (by simp [Queue.totals]) descriptor total
  · exact ofMetrics "monitor" (by decide) (by simp [Monitor.metrics])
  · exact absurd rfl other
  · exact ofMetrics "optics" (by decide) (by simp [Optics.metrics])
  · exact ofMetrics "poe" (by decide) (by simp [Poe.metrics])

/-- The metrics of wireless interfaces are in a group. -/
theorem wireless_inGroup :
    ∀ descriptor ∈ WirelessInterface.collector.descriptors, descriptor.InGroup "wlan_interface" := by
  intro descriptor described
  rcases List.mem_append.mp described with front | channel
  · -- The frequency comes first, then the metrics of the row.
    rcases List.mem_cons.mp front with rfl | metric
    · exact ⟨"frequency", rfl⟩
    · exact Property.descriptors_inGroup (by simp [WirelessInterface.metrics]) descriptor metric
  · -- The channel comes last.
    exact ⟨"channel", by rw [List.mem_singleton.mp channel]; rfl⟩

/-- No metric of another group has the name of one of wireless interfaces. -/
theorem wireless_name_ne {descriptor wireless : Descriptor}
    (other : ∃ group ∈ otherGroups, descriptor.InGroup group)
    (described : wireless ∈ WirelessInterface.collector.descriptors) :
    descriptor.name ≠ wireless.name := by
  obtain ⟨group, known, name, named⟩ := other
  obtain ⟨name', named'⟩ := wireless_inGroup wireless described
  -- There are few groups, so that their names can be compared one by one.
  have apart : ∀ group ∈ otherGroups, group.isEmpty = false ∧
      ¬ groupStart group <+: groupStart "wlan_interface" ∧
      ¬ groupStart "wlan_interface" <+: groupStart group := by decide
  obtain ⟨some, notBefore, notBehind⟩ := apart group known
  rw [named, named']
  exact joinedName_ne some (by decide) notBefore notBehind name name'

end RouterMetrics.Collector
