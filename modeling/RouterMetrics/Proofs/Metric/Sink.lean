import RouterMetrics.Metric.Sink
import RouterMetrics.Proofs.OrderedMap

/-! The families of a sink: every sample stands in that of its name, and no other sample does. -/

namespace RouterMetrics.Metric

/-- Every label of a sample has a text. -/
def Valued (addition : Addition) : Prop := ∀ label ∈ addition.labels, label.isSome = true

/-- The sample that an addition brings. -/
def Addition.sample (addition : Addition) : Sample := ⟨addition.value, addition.labels⟩

/-- Descriptors of one name are the same. -/
def SameByName (descriptors : List Descriptor) : Prop :=
  ∀ first ∈ descriptors, ∀ second ∈ descriptors, first.name = second.name → first = second

/-- A family of some additions: its descriptor and its samples come from those of one name. -/
structure FamilyOf (additions : List Addition) (name : String) (family : Family) : Prop where
  named : family.descriptor.name = name
  described : ∃ addition ∈ additions, addition.descriptor = family.descriptor
  sampled : ∀ sample ∈ family.samples, ∃ addition ∈ additions,
    addition.descriptor.name = name ∧ addition.sample = sample

namespace FamilyOf

variable {additions : List Addition} {name : String} {family : Family}

/-- A family of some additions is one of these and another one. -/
theorem concat (made : FamilyOf additions name family) (last : Addition) :
    FamilyOf (additions ++ [last]) name family where
  -- Each addition that the family is made of is still there.
  named := made.named
  described := by
    obtain ⟨first, known, same⟩ := made.described
    exact ⟨first, List.mem_append_left _ known, same⟩
  sampled := by
    intro sample inside
    obtain ⟨addition, earlier, same⟩ := made.sampled sample inside
    exact ⟨addition, List.mem_append_left _ earlier, same⟩

/-- A family of some additions takes one more sample of its name. -/
theorem push (made : FamilyOf additions name family) {last : Addition} (last_mem : last ∈ additions)
    (same : last.descriptor.name = name) : FamilyOf additions name (family.push last) where
  named := made.named
  described := made.described
  sampled := by
    intro sample inside
    -- The new sample stands behind those of the family.
    rcases List.mem_append.mp inside with earlier | final
    · exact made.sampled sample earlier
    · exact ⟨last, last_mem, same, (List.mem_singleton.mp final).symm⟩

end FamilyOf

/-- A sample with a value for each of some different labels has each of its values under one label. -/
theorem Family.sampleLabels_paired {family : Family} (distinct : family.descriptor.labels.Nodup)
    {sample : Sample} (complete : sample.labels.length = family.descriptor.labels.length) :
    (family.sampleLabels sample).keys = family.descriptor.labels ∧
      (family.sampleLabels sample).values = sample.labels := by
  have keys :
      (family.descriptor.labels.zip sample.labels).map Prod.fst = family.descriptor.labels :=
    List.map_fst_zip complete.ge
  rw [← keys] at distinct
  -- As no label comes twice, none of the values takes the place of another one.
  unfold Family.sampleLabels OrderedMap.keys OrderedMap.values
  rw [OrderedMap.entries_ofList_of_nodup distinct]
  exact ⟨keys, List.map_snd_zip complete.le⟩

/-- The additions of a name. -/
def named (name : String) (additions : List Addition) : List Addition :=
  additions.filter fun addition => addition.descriptor.name = name

@[simp] theorem named_append (name : String) (additions later : List Addition) :
    named name (additions ++ later) = named name additions ++ named name later :=
  List.filter_append ..

theorem named_self (addition : Addition) :
    named addition.descriptor.name [addition] = [addition] := by
  simp [named]

theorem named_other {name : String} {addition : Addition} (other : addition.descriptor.name ≠ name) :
    named name [addition] = [] := by
  simp [named, other]

namespace Sink

/-- One more addition is inserted behind the others. -/
theorem insertAll_concat (sink : Sink) (additions : List Addition) (last : Addition) :
    sink.insertAll (additions ++ [last]) = (sink.insertAll additions).insert last := by
  -- Additions are inserted from the first to the last.
  simp [insertAll]

/-- Every family of a sink is one of the additions that were made. -/
theorem familyOf_insertAll (additions : List Addition) :
    ∀ entry ∈ (empty.insertAll additions).byName.entries, FamilyOf additions entry.1 entry.2 := by
  -- The induction is on the last addition, which is inserted into the sink of the others.
  induction additions using List.reverseRecOn with
  | nil => exact fun entry member => absurd member List.not_mem_nil
  | append_singleton additions last ih =>
    rw [insertAll_concat]
    intro entry member
    have here : last ∈ additions ++ [last] := List.mem_append_right _ (List.mem_singleton_self _)
    rcases OrderedMap.eq_or_mem_of_put member with rfl | earlier
    · -- The family of the new addition is an old one, or it starts with this addition.
      refine FamilyOf.push ?_ here rfl
      unfold OrderedMap.getD
      cases known : (empty.insertAll additions).byName.get? last.descriptor.name with
      | none => exact ⟨rfl, ⟨last, here, rfl⟩, fun _ inside => absurd inside List.not_mem_nil⟩
      | some family => exact (ih _ (OrderedMap.mem_of_get? known)).concat last
    · exact (ih entry earlier).concat last

/-- Every addition has its sample in the family of its name. -/
theorem mem_family {additions : List Addition} {addition : Addition} (member : addition ∈ additions) :
    ∃ family, (empty.insertAll additions).byName.get? addition.descriptor.name = some family ∧
      addition.sample ∈ family.samples := by
  induction additions using List.reverseRecOn with
  | nil => exact absurd member List.not_mem_nil
  | append_singleton additions last ih =>
    rw [insertAll_concat]
    -- The families other than that of the new addition stay as they were.
    by_cases same : addition.descriptor.name = last.descriptor.name
    · rw [same]
      refine ⟨_, OrderedMap.get?_put_self _ _ _, ?_⟩
      -- The family of the new addition keeps its samples and gets one more.
      rcases List.mem_append.mp member with earlier | final
      · obtain ⟨family, known, inside⟩ := ih earlier
        rw [same] at known
        have old : (empty.insertAll additions).byName.getD last.descriptor.name
            ⟨last.descriptor, []⟩ = family := by rw [OrderedMap.getD, known, Option.getD_some]
        rw [old]
        exact List.mem_append_left _ inside
      · rw [List.mem_singleton.mp final]
        exact List.mem_append_right _ (List.mem_singleton_self _)
    · have differs : addition ≠ last := fun equal => same (by rw [equal])
      have earlier : addition ∈ additions := by simpa [differs] using member
      obtain ⟨family, known, inside⟩ := ih earlier
      refine ⟨family, ?_, inside⟩
      rw [insert, OrderedMap.get?_put_of_ne _ _ same, known]

/-- The families stand under the names of the additions, in the order in which these first came. -/
theorem keys_insertAll (additions : List Addition) :
    (empty.insertAll additions).byName.keys =
      (additions.map fun addition => addition.descriptor.name).eraseDups := by
  -- The induction is on the additions from the last one, whose name may be there already.
  induction additions using List.reverseRecOn with
  | nil => rfl
  | append_singleton additions last ih =>
    rw [insertAll_concat, insert, OrderedMap.keys_put, ih, List.map_append, List.map_singleton,
      OrderedMap.eraseDups_concat]
    simp only [List.mem_eraseDups]

/-- No two families stand under the same name. -/
theorem distinct_insertAll (additions : List Addition) :
    (empty.insertAll additions).byName.Distinct := by
  -- The induction is on the additions from the last one, which is put under its name.
  induction additions using List.reverseRecOn with
  | nil => exact .empty
  | append_singleton additions last ih =>
    rw [insertAll_concat]
    exact ih.put _ _

/-- Additions of a name go behind the samples of its family; without a family the first starts one. -/
def familyWith : Option Family → List Addition → Option Family
  | some family, additions =>
      some { family with samples := family.samples ++ additions.map Addition.sample }
  | none, additions => additions.head?.map fun first =>
      ⟨first.descriptor, additions.map Addition.sample⟩

/-- The family under a name grows by all additions of that name, and by no other ones. -/
theorem get?_insertAll_behind (sink : Sink) (additions : List Addition) (name : String) :
    (sink.insertAll additions).byName.get? name =
      familyWith (sink.byName.get? name) (named name additions) := by
  -- The induction is on the last addition, which is inserted into the sink of the others.
  induction additions using List.reverseRecOn with
  | nil =>
    change sink.byName.get? name = _
    cases sink.byName.get? name <;> simp [familyWith, named]
  | append_singleton additions last ih =>
    rw [insertAll_concat, insert, named_append]
    by_cases same : last.descriptor.name = name
    · -- The new sample stands behind the others of its name, or is the first one of them.
      subst same
      rw [OrderedMap.get?_put_self, OrderedMap.getD, ih, named_self]
      cases sink.byName.get? last.descriptor.name with
      | some family => simp [familyWith, Family.push, Addition.sample]
      | none =>
        cases named last.descriptor.name additions with
        | nil => rfl
        | cons first others => simp [familyWith, Family.push, Addition.sample]
    · rw [OrderedMap.get?_put_of_ne _ _ (Ne.symm same), ih, named_other same, List.append_nil]

/-- The family under a name has the first descriptor and all samples of the additions of that name. -/
theorem get?_insertAll (additions : List Addition) (name : String) :
    (empty.insertAll additions).byName.get? name =
      (named name additions).head?.map fun first =>
        ⟨first.descriptor, (named name additions).map Addition.sample⟩ :=
  get?_insertAll_behind empty additions name

/-- Additions that have a value for each label are all added. -/
theorem foldlM_add {additions : List Addition}
    (complete : ∀ addition ∈ additions, addition.fault? = none) (sink : Sink) :
    additions.foldlM add sink = .ok (sink.insertAll additions) := by
  -- The induction is on the additions, none of which is refused, for any sink to start with.
  induction additions generalizing sink with
  | nil => rfl
  | cons addition additions ih =>
    have first : sink.add addition = .ok (sink.insert addition) := by
      rw [add, complete addition List.mem_cons_self]
    rw [List.foldlM_cons, first]
    exact ih (fun other member => complete other (List.mem_cons_of_mem addition member)) _

end Sink

end RouterMetrics.Metric
