import RouterMetrics.Proofs.Collector.Isolation
import RouterMetrics.Proofs.Collector.Rows
import RouterMetrics.Proofs.Session.Answering
import RouterMetrics.Proofs.Wire.Sent

/-!
The parts of wireless channels: which frequencies an interface gets, and under which positions.

Main statement: each interface gets its metrics, its channel, and the frequencies of its channel up to the
first head that is no number, each under its position in the whole channel; where there is such a head the
interface fails, and costs the others nothing.
-/

namespace RouterMetrics.Text

/-- The parts of a text are those between the occurrences of the separator. -/
theorem partsAt_eq_splitOn (separator : Char) (text : List Char) :
    partsAt separator text = text.splitOn separator := by
  -- Both take off one character at a time, and put it before the first part or an empty one there.
  induction text with
  | nil => rfl
  | cons c text ih =>
    obtain ⟨part, parts, split⟩ := List.exists_cons_of_ne_nil (List.splitOn_ne_nil separator text)
    rw [partsAt, ih, List.splitOn_cons_eq_if_modifyHead, split]
    rfl

end RouterMetrics.Text

namespace RouterMetrics.Collector

open RouterMetrics.Metric
open RouterMetrics.Session (Line Reply SentOn)
open RouterMetrics.Wire (Writable encodeSentence exists_encodeSentence)

namespace WirelessInterface

/-! Channels. -/

/-- The heads of the parts of a channel that are not empty, each with the position of its part. -/
def markedHeads (channel : String) : List (Nat × String) :=
  (((channel.toList.splitOn '+').zipIdx 1).map fun (part, position) =>
    (position, String.ofList (part.takeWhile (· != '/')))).filter fun head => head.2 ≠ ""

/-- The sample of a head that is a number, under its position. -/
def IsFrequency (labels : List LabelValue) (head : Nat × String) (addition : Addition) : Prop :=
  ∃ value, Decimal.readDouble? head.2 = some value ∧
    addition = ⟨frequencyDescriptor, value, labels ++ [some (toString head.1)]⟩

/-- What the heads of a channel come to: their frequencies, and a fault if one is no number. -/
inductive Tuning (name : String) (labels : List LabelValue) :
    List (Nat × String) → List Addition → Option Fault → Prop
  | whole {heads : List (Nat × String)} {frequencies : List Addition}
      (numbers : List.Forall₂ (IsFrequency labels) heads frequencies) :
      Tuning name labels heads frequencies none
  | upTo {before after : List (Nat × String)} {head : Nat × String} {frequencies : List Addition}
      (numbers : List.Forall₂ (IsFrequency labels) before frequencies)
      (rejected : Decimal.readDouble? head.2 = none) :
      Tuning name labels (before ++ head :: after) frequencies
        (some (.gathered ("collect channel for " ++ name) [.value (.notNumber head.2)]))

/-- A frequency before others. -/
theorem Tuning.cons {name : String} {labels : List LabelValue} {head : Nat × String}
    {heads : List (Nat × String)} {addition : Addition} {frequencies : List Addition}
    {fault? : Option Fault} (first : IsFrequency labels head addition)
    (others : Tuning name labels heads frequencies fault?) :
    Tuning name labels (head :: heads) (addition :: frequencies) fault? := by
  cases others with
  | whole numbers => exact .whole (.cons first numbers)
  -- The head that is no number stands behind the one in front as well.
  | upTo numbers rejected =>
    rw [← List.cons_append]
    exact .upTo (.cons first numbers) rejected

/-- A head that is no number costs one interface only. -/
theorem Tuning.isOfRow {name : String} {labels : List LabelValue} {heads : List (Nat × String)}
    {frequencies : List Addition} {fault : Fault}
    (tuned : Tuning name labels heads frequencies (some fault)) : fault.isOfRow = true := by
  -- The only fault is that of a head that is no number.
  cases tuned
  rfl

/-- What the state of an interface comes to: its metrics, its channel, and the frequencies there. -/
def Monitored (target : Target) (name : String) (reply : Reply) (samples : List Addition)
    (fault? : Option Fault) : Prop :=
  let labels : List LabelValue := [some target.scope.device, some target.scope.address, some name]
  ∃ row others frequencies, reply.rows = row :: others ∧
    Tuning name labels (markedHeads (row.get "channel")) frequencies fault? ∧
    samples = metrics.filterMap (fun metric => metric.sample? row.attributes labels) ++
      ⟨channelDescriptor, 1.0, labels ++ [some (row.get "channel")]⟩ :: frequencies

section Steps

/-- A sample with all its labels is added. -/
theorem emitting_emit (addition : Addition) (fits : addition.fault? = none) (scrape : Scrape) :
    emitting (emit addition) scrape = .ok () (scrape.gaining [addition] scrape.ledger.oddities) := by
  simp only [emitting, emit, fits]
  rfl

/-- The heads are gone through up to the first one that is no number, and empty ones are passed over. -/
theorem collectHeads_tuned (target : Target) (name : String) (heads : List (Nat × String)) :
    ∃ frequencies fault?,
      Tuning name (target.scope.withLabels [some name]).labels (heads.filter fun head => head.2 ≠ "")
        frequencies fault? ∧
      ∀ scrape, collectHeads (some name) (target.scope.withLabels [some name]) heads scrape =
        ending fault? (scrape.gaining frequencies scrape.ledger.oddities) := by
  induction heads with
  | nil =>
    refine ⟨[], none, .whole .nil, fun scrape => ?_⟩
    simp [collectHeads, ending, Scrape.gaining, Pure.pure, EStateM.pure]
  | cons head heads ih =>
    obtain ⟨position, head⟩ := head
    obtain ⟨frequencies, fault?, tuned, went⟩ := ih
    by_cases empty : head = ""
    · exact ⟨frequencies, fault?, by simpa [empty] using tuned,
        fun scrape => by simpa [collectHeads, empty] using went scrape⟩
    · rw [List.filter_cons_of_pos (by simpa using empty)]
      cases read : Decimal.readDouble? head with
      | none =>
        -- The heads behind this one do not have their turns.
        refine ⟨[], _, @Tuning.upTo _ _ [] _ _ _ .nil read, fun scrape => ?_⟩
        simp [collectHeads, empty, numberValue, read, ending, Scrape.gaining, nameText, throw, throwThe,
          MonadExceptOf.throw, EStateM.throw, Fault.ofConversion]
      | some value =>
        refine ⟨_, fault?, tuned.cons ⟨value, read, rfl⟩, fun scrape => ?_⟩
        -- The sample has a label for the position, and the later ones come behind it.
        have emitted := emitting_emit ⟨frequencyDescriptor, value,
          (target.scope.withLabels [some name]).labels ++ [some (toString position)]⟩ rfl scrape
        have place : String.ofList (Decimal.naturalText position) = toString position := rfl
        simp only [collectHeads, String.isEmpty_iff, empty, if_false, numberValue, read, place,
          Bind.bind, EStateM.bind, emitted, went, Scrape.gaining_gaining]
        rfl

/-- A row whose numbers can all be read gives their samples. -/
theorem collectMetrics_clean {attributes : Wire.Attributes} (clean : IsClean metrics attributes)
    (target : Target) (name : String) (scrape : Scrape) :
    ∃ oddities, collectMetrics metrics attributes (target.scope.withLabels [some name]) scrape =
      .ok () (scrape.gaining
        (metrics.filterMap fun metric =>
          metric.sample? attributes (target.scope.withLabels [some name]).labels) oddities) := by
  have numbers : ∀ metric ∈ metrics, metric.IsNumber := by
    simp [metrics, Metric.gauge, Property.IsNumber]
  have fits : ∀ metric ∈ metrics, metric.Fits (target.scope.withLabels [some name]).labels :=
    fits_of_length metrics_labels rfl
  obtain ⟨faults, ledger, collected, samples, none⟩ :=
    collectRow_reading numbers fits
      (fun metric member => Property.reading?_ne_overflow (metrics_bounded metric member) attributes)
      scrape.ledger
  -- There are no faults to gather, as all numbers can be read.
  cases none.mpr clean
  refine ⟨ledger.oddities, ?_⟩
  simp only [collectMetrics, emitting, collected, Bind.bind, EStateM.bind, Scrape.gaining, ← samples]
  rfl

/-- A reply whose first row has numbers that can be read is made use of in full. -/
theorem collectInterface_monitored (target : Target) {name : String} {reply : Reply}
    {row : Wire.Sentence} {others : List Wire.Sentence} {scrape : Scrape} {after : Line}
    (ran : Session.run (stateRequest (some name)) scrape.line = .ok reply after)
    (rows : reply.rows = row :: others) (clean : IsClean metrics row.attributes) :
    ∃ samples fault? oddities, Monitored target name reply samples fault? ∧
      collectInterface target (some name) scrape =
        ending fault? ((Scrape.mk after scrape.ledger).gaining samples oddities) := by
  obtain ⟨oddities, read⟩ := collectMetrics_clean clean target name ⟨after, scrape.ledger⟩
  obtain ⟨frequencies, fault?, tuned, went⟩ :=
    collectHeads_tuned target name (channelHeads (row.get "channel"))
  -- The heads that count are those that are not empty.
  have marked : (channelHeads (row.get "channel")).filter (fun head => head.2 ≠ "") =
      markedHeads (row.get "channel") := by
    rw [channelHeads, Text.partsAt_eq_splitOn, markedHeads]
  rw [marked] at tuned
  -- The sample of the channel as a whole has the channel for its label.
  have emitted := emitting_emit ⟨channelDescriptor, 1.0,
    (target.scope.withLabels [some name]).labels ++ [some (row.get "channel")]⟩ rfl
  refine ⟨_, fault?, oddities, ⟨row, others, frequencies, rows, tuned, rfl⟩, ?_⟩
  simp only [collectInterface, query, ran, rows, Bind.bind, EStateM.bind, read, emitted, went,
    Scrape.gaining_gaining, List.append_assoc]
  rfl

/-- The fault of an interface does not keep the others from their turns. -/
theorem Monitored.isOfRow {target : Target} {name : String} {reply : Reply}
    {samples : List Addition} {fault : Fault}
    (monitored : Monitored target name reply samples (some fault)) : fault.isOfRow = true := by
  -- The only fault is that of the channel.
  obtain ⟨row, others, frequencies, -, tuned, -⟩ := monitored
  exact tuned.isOfRow

/-- The request for the state of an interface can be written if the word with its name can. -/
theorem exists_encodeSentence_state {name : String} (writable : Writable ("=numbers=" ++ name)) :
    ∃ bytes, encodeSentence (stateRequest (some name)) = .ok bytes := by
  -- All other words are the same for each interface.
  have fixed : ∀ word ∈ ["/interface/wireless/monitor", "=once=",
      propertyList ["registered-clients", "noise-floor", "overall-tx-ccq", "channel"]],
      Writable word := by
    unfold Writable
    decide +kernel
  refine exists_encodeSentence fun word member => ?_
  simp only [stateRequest, nameText, Option.getD_some, List.mem_cons, List.not_mem_nil, or_false]
    at member
  rcases member with rfl | rfl | rfl | rfl
  · exact fixed _ (by simp)
  · exact writable
  · exact fixed _ (by simp)
  · exact fixed _ (by simp)

/-- An interface whose name can be sent, and whose state comes with numbers that can be read. -/
structure Legible (turn : String × Reply) : Prop where
  writable : Writable ("=numbers=" ++ turn.1)
  told : ∃ row others, turn.2.rows = row :: others ∧ IsClean metrics row.attributes

/-- All interfaces have their turns, whatever the channels of some of them are. -/
theorem gather_monitored (target : Target) {turns : List (String × Reply)}
    (legible : ∀ turn ∈ turns, Legible turn) (scrape : Scrape)
    (answers : scrape.line.Answers (turns.map Prod.snd)) :
    ∃ outcomes : List (List Addition × Option Fault), ∃ events after oddities,
      List.Forall₂ (fun turn outcome => Monitored target turn.1 turn.2 outcome.1 outcome.2)
        turns outcomes ∧
      List.Forall₂ (SentOn scrape.line.client.link.id)
        (turns.map fun turn => stateRequest (some turn.1)) events ∧
      after.events = scrape.line.events ++ events ∧
      gather Fault.isOfRow (collectInterface target) (turns.map fun turn => some turn.1) scrape =
        .ok (outcomes.filterMap Prod.snd)
          ((Scrape.mk after scrape.ledger).gaining (outcomes.flatMap Prod.fst) oddities) := by
  -- The induction is on the interfaces: each leaves the line to the replies for the later ones.
  induction turns generalizing scrape with
  | nil =>
    refine ⟨[], [], scrape.line, scrape.ledger.oddities, .nil, .nil, by simp, ?_⟩
    simp [gather, Scrape.gaining, Pure.pure, EStateM.pure]
  | cons turn turns ih =>
    obtain ⟨own, others⟩ := List.forall_mem_cons.mp legible
    obtain ⟨row, rows, told, clean⟩ := own.told
    obtain ⟨bytes, written⟩ := exists_encodeSentence_state own.writable
    obtain ⟨between, ran, later, same, event, sent, seen⟩ := answers.run written
    obtain ⟨samples, fault?, oddities, monitored, collected⟩ :=
      collectInterface_monitored target ran told clean
    obtain ⟨outcomes, events, after, lastOddities, all, asked, told, went⟩ :=
      ih others ((Scrape.mk between scrape.ledger).gaining samples oddities) later
    refine ⟨(samples, fault?) :: outcomes, event :: events, after, lastOddities,
      .cons monitored all, .cons sent (same ▸ asked), ?_, ?_⟩
    · rw [told]
      simp [Scrape.gaining, seen]
    · have gained : (Scrape.mk after scrape.ledger).gaining
          (((samples, fault?) :: outcomes).flatMap Prod.fst) lastOddities =
            (Scrape.mk after ((Scrape.mk between scrape.ledger).gaining samples oddities).ledger).gaining
              (outcomes.flatMap Prod.fst) lastOddities := by
        simp [Scrape.gaining]
      rw [gained]
      cases fault? with
      | none =>
        simp only [ending] at collected
        simp [gather, collected, went]
      | some fault =>
        simp only [ending] at collected
        simp [gather, collected, monitored.isOfRow, went]

/--
Every interface that is not managed from elsewhere is asked for its state and gets its samples in full:
those of its numbers, one for its channel as a whole, and one for each part of its channel with a head.

The frequency of a part stands under the position of the part in the whole channel, empty parts
included. Where a head is no number, exactly the frequencies before it are there, and the interface
fails; the others are asked for all the same. The faults of all interfaces are gathered at the end.
-/
theorem channel_parts_numbered (target : Target) {line : Line} (ledger : Ledger)
    {interfaces : Reply} {turns : List (String × Reply)}
    (answers : line.Answers (interfaces :: turns.map Prod.snd))
    (selected : ((interfaces.rows.filter fun row => !isManaged row).map fun row => row.get? "name") =
      turns.map fun turn => some turn.1)
    (legible : ∀ turn ∈ turns, Legible turn) :
    ∃ outcomes : List (List Addition × Option Fault), ∃ events after oddities,
      List.Forall₂ (fun turn outcome => Monitored target turn.1 turn.2 outcome.1 outcome.2)
        turns outcomes ∧
      List.Forall₂ (SentOn line.client.link.id)
        (namesRequest :: turns.map fun turn => stateRequest (some turn.1)) events ∧
      after.events = line.events ++ events ∧
      collect target ⟨line, ledger⟩ =
        ending (gathered? (outcomes.filterMap Prod.snd))
          ((Scrape.mk after ledger).gaining (outcomes.flatMap Prod.fst) oddities) := by
  have writable : ∀ word ∈ namesRequest, Writable word := by
    unfold Writable
    decide +kernel
  -- The interfaces are asked for first, and each of them takes its turn behind that.
  obtain ⟨bytes, written⟩ := exists_encodeSentence writable
  obtain ⟨between, ran, later, same, event, sent, seen⟩ := answers.run written
  obtain ⟨outcomes, events, after, oddities, all, asked, told, went⟩ :=
    gather_monitored target legible ⟨between, ledger⟩ later
  refine ⟨outcomes, event :: events, after, oddities, all, .cons sent (same ▸ asked), ?_, ?_⟩
  · rw [told]
    simp [seen]
  · simp only [collect, query, collectEach, ran, selected, went, Bind.bind, EStateM.bind]
    cases outcomes.filterMap Prod.snd <;> rfl

end Steps

/-- Two interfaces: one has a head that is no number, and the other one two empty parts. -/
theorem two_channels_numbered :
    let row := fun attributes => Wire.Sentence.mk "!re" "" ⟨attributes⟩
    let reply := fun rows : List (List (String × String)) =>
      Reply.mk (rows.map row) ⟨"!done", "", ⟨[]⟩⟩
    let bytes := fun rows : List (List (String × String)) =>
      ((rows.map fun attributes => "!re" :: attributes.map fun (name, value) =>
        "=" ++ name ++ "=" ++ value) ++ [["!done"]]).flatMap fun words =>
          (encodeSentence words).toOption.getD []
    let interfaces := [[("name", "wlan1")], [("name", "cap"), ("disabled", "true")], [("name", "wlan2")]]
    let states := [[[("noise-floor", "-95"), ("channel", "2412/20+auto+2437")]],
      [[("registered-clients", "3"), ("channel", "5180/20-Ceee/ac++/x+5775")]]]
    let line := Line.mk
      (.ofLink (.fresh 0 ((interfaces :: states).map fun rows => .answer (bytes rows) none))) []
    let turns := ["wlan1", "wlan2"].zip (states.map reply)
    let shown := fun addition : Addition => (addition.descriptor.name, addition.labels.drop 2)
    let target := Target.ofDevice {} "wlanif"
    line.Answers (reply interfaces :: turns.map Prod.snd) ∧
      (((reply interfaces).rows.filter fun row => !isManaged row).map fun row => row.get? "name") =
        turns.map (fun turn => some turn.1) ∧
      (∀ turn ∈ turns, Legible turn) ∧
      ∃ outcomes : List (List Addition × Option Fault),
        List.Forall₂ (fun turn outcome => Monitored target turn.1 turn.2 outcome.1 outcome.2)
          turns outcomes ∧
        (outcomes.flatMap Prod.fst).map shown =
          [("mikrotik_wlan_interface_noise_floor", [some "wlan1"]),
            ("mikrotik_wlan_interface_channel", [some "wlan1", some "2412/20+auto+2437"]),
            ("mikrotik_wlan_interface_frequency", [some "wlan1", some "1"]),
            ("mikrotik_wlan_interface_registered_clients", [some "wlan2"]),
            ("mikrotik_wlan_interface_channel", [some "wlan2", some "5180/20-Ceee/ac++/x+5775"]),
            ("mikrotik_wlan_interface_frequency", [some "wlan2", some "1"]),
            ("mikrotik_wlan_interface_frequency", [some "wlan2", some "4"])] := by
  intro row reply bytes interfaces states line turns shown target
  -- Every reply is what comes behind its request.
  have answers : line.Answers (reply interfaces :: turns.map Prod.snd) := by
    refine ⟨rfl, rfl, line.client.link.reactions, [], (List.append_nil _).symm, ?_⟩
    exact .cons (by decide +kernel) (.cons (by decide +kernel) (.cons (by decide +kernel) .nil))
  have selected : (((reply interfaces).rows.filter fun row => !isManaged row).map
      fun row => row.get? "name") = turns.map (fun turn => some turn.1) := by decide +kernel
  have legible : ∀ turn ∈ turns, Legible turn := by
    have told : ∀ turn ∈ turns, Writable ("=numbers=" ++ turn.1) ∧ turn.2.rows ≠ [] ∧
        ∀ row ∈ turn.2.rows, ∀ metric ∈ metrics,
          (metric.reading? row.attributes).all Except.toBool = true := by
      unfold Writable
      decide +kernel
    intro turn member
    obtain ⟨writable, some, clean⟩ := told turn member
    obtain ⟨row, others, rows⟩ := List.exists_cons_of_ne_nil some
    refine ⟨writable, row, others, rows, fun metric inside fault rejected => ?_⟩
    have read := clean row (rows ▸ List.mem_cons_self) metric inside
    rw [rejected] at read
    cases read
  obtain ⟨outcomes, events, after, oddities, monitored, -, -, collected⟩ :=
    channel_parts_numbered target .empty answers selected legible
  refine ⟨answers, selected, legible, outcomes, monitored, ?_⟩
  -- All samples are new, as the ledger is empty before.
  have gained : (scrapeOf (collect target ⟨line, .empty⟩)).ledger.additions =
      outcomes.flatMap Prod.fst := by
    rw [collected]
    cases gathered? (outcomes.filterMap Prod.snd) <;> rfl
  rw [← gained]
  decide +kernel

end WirelessInterface

end RouterMetrics.Collector
