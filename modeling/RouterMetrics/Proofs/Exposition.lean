import RouterMetrics.Exposition
import RouterMetrics.Proofs.Lists
import RouterMetrics.Proofs.Metric.Sink

/-!
Whether there is a page of some samples, and what stands on it.

Main statement: a page is made exactly if every label of every sample has a text, and then each
sample has its line there.
-/

namespace RouterMetrics.Exposition

open RouterMetrics.Metric

/-- The text has another one in it. -/
def Holds (text part : String) : Prop := ∃ before after, text = before ++ part ++ after

/-- What stands in a part of a text stands in the text. -/
theorem Holds.trans {text part piece : String} (outer : Holds text part) (inner : Holds part piece) :
    Holds text piece := by
  -- What is around the piece is around the part, and what is in the part around the piece.
  obtain ⟨before, after, rfl⟩ := outer
  obtain ⟨first, last, rfl⟩ := inner
  exact ⟨before ++ first, last ++ after, by simp only [String.append_assoc]⟩

private theorem holds_front (part after : String) : Holds (part ++ after) part :=
  ⟨"", after, by rw [String.empty_append]⟩

private theorem holds_back (before part : String) : Holds (before ++ part) part :=
  ⟨before, "", by rw [String.append_empty]⟩

/-- Of texts that are joined each one stands in the whole. -/
theorem holds_join {parts : List String} {part : String} (member : part ∈ parts) :
    Holds (String.join parts) part := by
  -- The other texts stand before and behind it.
  obtain ⟨before, after, rfl⟩ := List.append_of_mem member
  refine ⟨String.join before, String.join after, ?_⟩
  rw [String.join_append, String.join_cons, String.append_assoc]

/-- A sample has no line exactly if one of its labels has no value. -/
theorem sampleLine?_eq_none_iff {family : Family} {sample : Sample} :
    sampleLine? family sample = none ↔
      ∃ label ∈ (family.sampleLabels sample).entries, label.2 = none := by
  have missing : sampleLine? family sample = none ↔
      (sortedLabels family sample).mapM labelPair? = none := by
    unfold sampleLine?
    cases (sortedLabels family sample).mapM labelPair? <;> simp
  rw [missing, mapM_eq_none_iff]
  -- Sorting brings labels into another order only.
  simp [sortedLabels, labelPair?]

/-- A family has no lines exactly if one of its samples has none. -/
theorem familyText?_eq_none_iff {family : Family} :
    familyText? family = none ↔ ∃ sample ∈ family.samples, sampleLine? family sample = none := by
  -- The lines of a family are those of its samples.
  rw [← mapM_eq_none_iff]
  unfold familyText?
  cases family.samples.mapM (sampleLine? family) <;> simp

/-- Among the lines of a family stands that of each of its samples. -/
theorem familyText?_holds {family : Family} {text : String} (told : familyText? family = some text)
    {sample : Sample} (member : sample ∈ family.samples) :
    ∃ line, sampleLine? family sample = some line ∧ Holds text line := by
  unfold familyText? at told
  simp only [Option.bind_eq_bind, Option.bind_eq_some_iff, Option.pure_def, Option.some.injEq] at told
  obtain ⟨lines, mapped, rfl⟩ := told
  -- The lines of the samples stand behind the heading of the family.
  obtain ⟨line, inside, found⟩ := mem_of_mapM mapped member
  exact ⟨line, found, (holds_back _ _).trans (holds_join inside)⟩

/-- There is a page of families exactly if each of them has lines. -/
theorem page_ok_iff {families : List Family} :
    (∃ text, page families = .ok text) ↔ ∀ family ∈ families, familyText? family ≠ none := by
  induction families with
  | nil => simp [page]
  | cons family families ih =>
    rw [page, List.forall_mem_cons, ← ih]
    -- One family without lines takes the whole page with it.
    cases familyText? family <;> cases page families <;> simp [Except.map]

/-- On a page stand the lines of each family. -/
theorem page_holds {families : List Family} {text : String} (shown : page families = .ok text)
    {family : Family} (member : family ∈ families) :
    ∃ lines, familyText? family = some lines ∧ Holds text lines := by
  induction families generalizing text with
  | nil => exact absurd member List.not_mem_nil
  | cons first families ih =>
    rw [page] at shown
    cases told : familyText? first with
    | none => simp [told] at shown
    | some lines =>
      cases rest : page families with
      | error fault => simp [told, rest, Except.map] at shown
      | ok others =>
        simp only [told, rest, Except.map, Except.ok.injEq] at shown
        subst shown
        -- The lines of a later family stand further behind on the page.
        rcases List.mem_cons.mp member with rfl | later
        · exact ⟨lines, told, holds_front lines others⟩
        · obtain ⟨own, found, held⟩ := ih rest later
          exact ⟨own, found, (holds_back lines others).trans held⟩

/-- In a place for which the descriptor has a label there is no value. -/
def Gap (descriptor : Descriptor) (labels : List LabelValue) : Prop :=
  ∃ place < descriptor.labels.length, labels[place]? = some none

/-- A sample with a gap has no line in its family. -/
theorem sampleLine?_of_gap {family : Family} {sample : Sample}
    (distinct : family.descriptor.labels.Nodup) (gap : Gap family.descriptor sample.labels) :
    sampleLine? family sample = none := by
  obtain ⟨place, inside, missing⟩ := gap
  obtain ⟨given, value⟩ := List.getElem?_eq_some_iff.mp missing
  -- With different names for its labels a sample keeps all of its values.
  have keys : ((family.descriptor.labels.zip sample.labels).map Prod.fst).Nodup :=
    distinct.sublist (prefix_fst_zip _ _).sublist
  rw [sampleLine?_eq_none_iff, Family.sampleLabels, OrderedMap.entries_ofList_of_nodup keys]
  -- The place of the gap is one of the pairs of names and values.
  have paired : place < (family.descriptor.labels.zip sample.labels).length := by
    rw [List.length_zip]
    omega
  refine ⟨(family.descriptor.labels[place], sample.labels[place]), ?_, value⟩
  rw [← List.getElem_zip (h := paired)]
  exact List.getElem_mem paired

/-- A sample whose labels all have texts has a line. -/
theorem sampleLine?_of_valued {family : Family} {addition : Addition} (valued : Valued addition) :
    sampleLine? family addition.sample ≠ none := by
  -- A label without a text would be one of the labels of the addition.
  rw [Ne, sampleLine?_eq_none_iff]
  rintro ⟨label, member, missing⟩
  have paired := OrderedMap.mem_of_mem_ofList member
  have given := valued label.2 (List.of_mem_zip paired).2
  rw [missing] at given
  cases given

/-- The samples that lack the value of a label lack it in every family under their name. -/
def Uniform (additions : List Addition) : Prop :=
  ∀ addition ∈ additions, ¬ Valued addition →
    ∀ other ∈ additions, other.descriptor.name = addition.descriptor.name →
      other.descriptor.labels.Nodup ∧ Gap other.descriptor addition.labels

/-- There is a page of some samples exactly if all labels have texts. -/
theorem page_insertAll_iff {additions : List Addition} (uniform : Uniform additions) :
    (∃ text, page (Sink.empty.insertAll additions).families = .ok text) ↔
      ∀ addition ∈ additions, Valued addition := by
  rw [page_ok_iff]
  constructor
  · intro told addition member
    obtain ⟨family, known, inside⟩ := Sink.mem_family member
    have entry := OrderedMap.mem_of_get? known
    -- The sample is in a family that is told on the page.
    have listed : family ∈ (Sink.empty.insertAll additions).families :=
      List.mem_map_of_mem (f := Prod.snd) entry
    by_contra unvalued
    -- The family stands under the descriptor of an addition of the same name.
    have made := Sink.familyOf_insertAll additions _ entry
    obtain ⟨first, other, described⟩ := made.described
    have named : first.descriptor.name = addition.descriptor.name := by
      rw [described]
      exact made.named
    obtain ⟨distinct, gap⟩ := uniform addition member unvalued first other named
    rw [described] at distinct gap
    exact told family listed
      (familyText?_eq_none_iff.mpr ⟨addition.sample, inside, sampleLine?_of_gap distinct gap⟩)
  · intro valued family listed missing
    -- A sample without a line is that of an addition, all of whose labels have texts.
    obtain ⟨sample, inside, untold⟩ := familyText?_eq_none_iff.mp missing
    obtain ⟨⟨name, own⟩, entry, rfl⟩ := List.mem_map.mp listed
    obtain ⟨addition, member, -, rfl⟩ := (Sink.familyOf_insertAll additions _ entry).sampled sample inside
    exact sampleLine?_of_valued (valued addition member) untold

/-- The page has the line of a sample in the family of its name. -/
def Shows (sink : Sink) (text : String) (addition : Addition) : Prop :=
  ∃ family line, sink.byName.get? addition.descriptor.name = some family ∧
    sampleLine? family addition.sample = some line ∧ Holds text line

/-- A page shows all samples of which it is made. -/
theorem shows_of_page {additions : List Addition} {text : String}
    (shown : page (Sink.empty.insertAll additions).families = .ok text) :
    ∀ addition ∈ additions, Shows (Sink.empty.insertAll additions) text addition := by
  -- The sample has a line in its family, whose lines are a part of the page.
  intro addition member
  obtain ⟨family, known, inside⟩ := Sink.mem_family member
  have listed : family ∈ (Sink.empty.insertAll additions).families :=
    List.mem_map_of_mem (f := Prod.snd) (OrderedMap.mem_of_get? known)
  obtain ⟨lines, told, outer⟩ := page_holds shown listed
  obtain ⟨line, found, inner⟩ := familyText?_holds told inside
  exact ⟨family, line, known, found, outer.trans inner⟩

end RouterMetrics.Exposition
