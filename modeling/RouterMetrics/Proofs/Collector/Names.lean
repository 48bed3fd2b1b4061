import Mathlib
import RouterMetrics.Fleet.Basic

/-! Names: every metric of the program has one of its own, under which all devices tell the same. -/

namespace RouterMetrics.Fleet

open RouterMetrics.Metric

/-- The descriptors of all samples that can be given: those about scrapes, and those of collectors. -/
def allDescriptors : List Descriptor :=
  scrapeDescriptors ++ Collector.all.flatMap Collector.descriptors

/-- The bytes of a text as the digits of a number, which is faster to compare. -/
private def textNumber (text : String) : Nat :=
  text.toByteArray.data.toList.foldl (fun number byte => number * 256 + byte.toNat) 0

/-- No two metrics have the same name. -/
theorem names_nodup : (allDescriptors.map Descriptor.name).Nodup :=
  -- Texts with different numbers are different.
  .of_map textNumber (by decide +kernel)

/-- Descriptors of the same name are the same. -/
theorem descriptor_of_name {descriptor other : Descriptor} (known : descriptor ∈ allDescriptors)
    (known' : other ∈ allDescriptors) (named : descriptor.name = other.name) : descriptor = other :=
  List.inj_on_of_nodup_map names_nodup known known' named

/-- No collector has a metric about scrapes. -/
theorem scrape_name_ne {descriptor other : Descriptor} (aboutScrapes : descriptor ∈ scrapeDescriptors)
    {collector : Collector} (registered : collector ∈ Collector.all)
    (described : other ∈ collector.descriptors) : other.name ≠ descriptor.name := by
  -- The metrics about scrapes stand before all others, and no name stands twice.
  have distinct := names_nodup
  rw [allDescriptors, List.map_append, List.nodup_append] at distinct
  intro same
  refine distinct.2.2 _ (List.mem_map_of_mem aboutScrapes) _ (List.mem_map_of_mem ?_) same.symm
  exact List.mem_flatMap.mpr ⟨collector, registered, described⟩

end RouterMetrics.Fleet
