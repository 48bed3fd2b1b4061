import RouterMetrics.Proofs.Collector.Anonymous
import RouterMetrics.Proofs.Session.Received

/-!
Requests that follow up on the names of a first reply.

Main statement: a name goes back to the device byte for byte, unless one of its bytes has no
character, its word grows too long, or names that are joined by commas have one themselves.
-/

namespace RouterMetrics.Collector

open RouterMetrics.Metric
open RouterMetrics.Session (Exchange Line Reply rowsAt isRead_of_rowsAt)
open RouterMetrics.Text.CodePage
open RouterMetrics.Wire

/-- A collector that asks for the names of things first, and then about the things of these names. -/
structure Pursuit where
  collector : Collector
  /-- The first request. -/
  request : List String
  /-- Whether there is a thing to ask about in a row of the first reply. -/
  selects : Sentence → Bool
  /-- The command of the requests that follow. -/
  command : String
  /-- What stands before the names. -/
  mark : String
  /-- What stands behind the word of the names. -/
  settings : List String
  /-- Whether one request asks about all names at once, with commas between them. -/
  together : Bool

/-- A row with a name. -/
def isNamed (row : Sentence) : Bool := !(row.get "name").isEmpty

/-- Leases are counted for one server after another. -/
def Dhcp.pursuit : Pursuit where
  collector := Dhcp.collector
  request := Dhcp.serversRequest
  selects := isNamed
  command := "/ip/dhcp-server/lease/print"
  mark := "?server="
  settings := ["=active=", "=count-only="]
  together := false

/-- The state of wireless interfaces is asked for one after another. -/
def WirelessInterface.pursuit : Pursuit where
  collector := WirelessInterface.collector
  request := WirelessInterface.namesRequest
  selects row := !WirelessInterface.isManaged row
  command := "/interface/wireless/monitor"
  mark := "=numbers="
  settings := ["=once=", propertyList ["registered-clients", "noise-floor", "overall-tx-ccq", "channel"]]
  together := false

/-- Ethernet links are asked for all at once. -/
def Monitor.pursuit : Pursuit where
  collector := Monitor.collector
  request := Monitor.namesRequest
  selects := isNamed
  command := "/interface/ethernet/monitor"
  mark := "=numbers="
  settings := ["=once=", propertyList ["name", "status", "rate", "full-duplex"]]
  together := true

/-- Optical modules are asked for all at once. -/
def Optics.pursuit : Pursuit where
  collector := Optics.collector
  request := Optics.namesRequest
  selects := Optics.isOptical
  command := "/interface/ethernet/monitor"
  mark := "=numbers="
  settings := ["=once=", propertyList
    ["name", "sfp-rx-loss", "sfp-tx-fault", "sfp-temperature", "sfp-supply-voltage", "sfp-rx-power",
      "sfp-tx-power", "sfp-tx-bias-current"]]
  together := true

/-- Powered ports are asked for all at once. -/
def Poe.pursuit : Pursuit where
  collector := Poe.collector
  request := Poe.namesRequest
  selects := isNamed
  command := "/interface/ethernet/poe/monitor"
  mark := "=numbers="
  settings := ["=once=", propertyList ["name", "poe-out-current", "poe-out-voltage", "poe-out-power"]]
  together := true

/-- The collectors whose later requests have names of a reply in them. -/
def pursuits : List Pursuit :=
  [Dhcp.pursuit, WirelessInterface.pursuit, Monitor.pursuit, Optics.pursuit, Poe.pursuit]

/-- The byte between names that are asked about together. -/
def commaByte : UInt8 := 0x2C

namespace Pursuit

variable (pursuit : Pursuit)

/-- The names that the rows of a reply tell, where they do. -/
def namesOf (rows : List Sentence) : List (Option String) :=
  (rows.filter pursuit.selects).map fun row => row.get? "name"

/-- The request about a text of names. -/
def followUp (text : String) : List String :=
  pursuit.command :: (pursuit.mark ++ text) :: pursuit.settings

/-- The texts that follow the mark in the requests about some names. -/
def texts (names : List String) : List String :=
  if pursuit.together then if names.isEmpty then [] else [",".intercalate names] else names

/-- The names that come in the answer to a request, as bytes. -/
def namesIn (exchange : Exchange) : List (Option (List UInt8)) :=
  ((rowsAt exchange.readable).filter fun row => pursuit.selects row.sentence).map fun row =>
    valueOf? "name" row.words

/-- The bytes that are to follow the mark in the requests about some names. -/
def parts (names : List (List UInt8)) : List (List UInt8) :=
  if pursuit.together then if names.isEmpty then [] else [[commaByte].intercalate names] else names

/-- The names that bytes behind the mark stand for. -/
def namesAmong (part : List UInt8) : List (List UInt8) :=
  if pursuit.together then part.splitOn commaByte else [part]

/-- Bytes that can stand behind the mark: they have characters, and a length can announce the word. -/
def Fits (part : List UInt8) : Prop :=
  (∀ byte ∈ part, (charOfByte? byte).isSome) ∧ pursuit.mark.length + part.length < 2 ^ 32

instance (part : List UInt8) : Decidable (pursuit.Fits part) :=
  inferInstanceAs (Decidable (_ ∧ _))

/-- The words of the request about some bytes. -/
def wordsAbout (part : List UInt8) : List (List UInt8) :=
  bytesOf pursuit.command :: (bytesOf pursuit.mark ++ part) :: pursuit.settings.map bytesOf

/-- The words of the request about some bytes as far as they fit; otherwise there are none. -/
def wordsFor (part : List UInt8) : List (List UInt8) :=
  if pursuit.Fits part then pursuit.wordsAbout part else []

/-- The bytes behind the mark in the words of a request. -/
def partIn? : List (List UInt8) → Option (List UInt8)
  | command :: word :: settings =>
      if command = bytesOf pursuit.command ∧ settings = pursuit.settings.map bytesOf ∧
          bytesOf pursuit.mark <+: word then
        some (word.drop (bytesOf pursuit.mark).length)
      else none
  | _ => none

/-- The requests of a turn that follow its first one are about just these names, in order. -/
def Tells (names : List (List UInt8)) (exchanges : List Exchange) : Prop :=
  (exchanges.tail.mapM fun exchange => pursuit.partIn? exchange.wordsSent).map
    (fun parts => parts.flatMap pursuit.namesAmong) = some names

instance (names : List (List UInt8)) (exchanges : List Exchange) :
    Decidable (pursuit.Tells names exchanges) := inferInstanceAs (Decidable (_ = _))

end Pursuit

/-- Requests made one after another, as long as each of them is answered by a reply. -/
structure InTurn (requests : List (List String)) (exchanges : List Exchange) : Prop where
  words : exchanges.map Exchange.words <+: requests
  stopped : exchanges.length < requests.length →
    ∃ last, exchanges.getLast? = some last ∧ ¬ last.Accepted

namespace InTurn

/-- Where nothing is asked, there are no requests. -/
theorem none : InTurn [] [] := ⟨List.nil_prefix, by simp⟩

/-- The only request is made. -/
theorem one (exchange : Exchange) : InTurn [exchange.words] [exchange] :=
  ⟨List.prefix_rfl, by simp⟩

/-- A request before others that are made in turn. -/
theorem cons {requests : List (List String)} {exchanges : List Exchange} (exchange : Exchange)
    (later : InTurn requests exchanges) :
    InTurn (exchange.words :: requests) (exchange :: exchanges) where
  words := List.prefix_cons_inj _ |>.mpr later.words
  stopped fewer := by
    -- Whatever the later requests do, this one is made before them.
    obtain ⟨last, found, refused⟩ := later.stopped (Nat.lt_of_succ_lt_succ fewer)
    exact ⟨last, by simp [List.getLast?_cons, found], refused⟩

/-- A request that is not answered by a reply may be the last one. -/
theorem stop {exchange : Exchange} (refused : ¬ exchange.Accepted) (requests : List (List String)) :
    InTurn (exchange.words :: requests) [exchange] where
  words := ⟨requests, rfl⟩
  -- The last request is the only one.
  stopped _ := ⟨exchange, rfl, refused⟩

end InTurn

/-- What a step does behind its request: it asks for nothing, and its faults cost a row only. -/
def restConduct : Conduct := ⟨fun _ => False, fun _ => True, fun fault => fault.isOfRow = true⟩

private theorem ofRow_of_obeys {script : Script Unit} {fault : Fault} (obeys : script.Obeys restConduct)
    (ended : script.outcome? = some (.error fault)) : fault.isOfRow = true := by
  -- A script without requests fails with a fault of its own.
  induction script with
  | finish outcome =>
    cases ended
    exact obeys
  | add added next ih => exact ih obeys.2 ended
  | ask words next => cases ended

/-- Steps of one request each, with nothing behind it that could end the others, are made in turn. -/
theorem inTurn_collectEach {ι : Type} {step : ι → Script Unit} {words : ι → List String}
    {rest : ι → Reply → Script Unit}
    (steps : ∀ item, step item = (Script.query (words item)).bind (rest item))
    (obeys : ∀ item reply, (rest item reply).Obeys restConduct) (items : List ι) (line : Line) :
    InTurn (items.map words) ((Script.collectEach items step).course line).exchanges := by
  rw [(Script.course_collectEach items step line).1]
  have silent : ∀ item reply, (rest item reply).outcome? ≠ none :=
    fun item reply => (obeys item reply).silent fun _ => id
  -- The induction is on the items; the line is that which the earlier requests have left.
  induction items generalizing line with
  | nil => exact .none
  | cons item items ih =>
    obtain ⟨asked, -, -⟩ := Script.course_query (words item) (silent item) line
    rw [← steps item] at asked
    rcases Script.course_gather_cons step item items line with
      ⟨exchanges, -⟩ | ⟨exchanges, -, fault, failed, costly⟩
    · rw [exchanges, asked]
      exact .cons ⟨line, words item⟩ (ih _)
    · -- Only what the request itself has met can cost more than a row.
      have refused : ¬ (Exchange.mk line (words item)).Accepted := by
        rintro ⟨reply, answered⟩
        rw [steps item] at failed
        rcases Script.outcome_query (words item) (silent item) failed with ⟨met, missed⟩ | ⟨other, ended⟩
        · rw [answered] at missed
          cases missed
        · rw [ofRow_of_obeys (obeys item other) ended] at costly
          cases costly
      rw [exchanges, asked]
      exact .stop refused _

namespace Pursuit

/-- A script that asks for the names first, and then about those that the reply tells. -/
def Follows (pursuit : Pursuit) (script : Script Unit) : Prop :=
  ∃ next, script = (Script.query pursuit.request).bind next ∧
    ∀ reply names, pursuit.namesOf reply.rows = names.map some → ∀ line,
      InTurn ((pursuit.texts names).map pursuit.followUp) ((next reply).course line).exchanges

end Pursuit

private theorem presentNames_of_named {rows : List Sentence} {names : List String}
    (named : (rows.filter isNamed).map (fun row => row.get? "name") = names.map some) :
    presentNames rows = names := by
  -- A row is named exactly if its name is present.
  have present : presentNames rows =
      ((rows.filter isNamed).map fun row => row.get? "name").filterMap id := by
    rw [List.filterMap_map, List.filterMap_filter]
    refine List.filterMap_congr fun row _ => ?_
    unfold isNamed Sentence.get OrderedMap.getD Sentence.get?
    cases found : row.attributes.get? "name" with
    | none => rfl
    | some name => by_cases empty : name = "" <;> simp [found, empty, Option.filter]
  rw [present, named]
  simp

/-- Leases are counted for every server in turn. -/
theorem Dhcp.follows (target : Target) : Dhcp.pursuit.Follows (Dhcp.scripted target).script := by
  -- The rest of a step counts the leases of its server.
  let rest := fun (server : String) (reply : Reply) =>
    Script.emitting (activeLeases.collect reply.done.attributes (target.scope.withLabels [some server]))
  have obeys : ∀ server reply, (rest server reply).Obeys restConduct := fun server reply =>
    (Scripted.counted [some server] reply.done.attributes rfl activeLeases_labels
      activeLeases_bounded (by simp) (fun _ member => member)
      (fun _ (_ : Sampled collector.descriptors target.scope _) _ => trivial) fun _ => rfl).obeys
  refine ⟨fun reply => Script.collectEach (presentNames reply.rows) fun server =>
    (Script.query (leasesRequest server)).bind (rest server), rfl, fun reply names named line => ?_⟩
  dsimp only
  rw [presentNames_of_named named]
  exact inTurn_collectEach (fun _ => rfl) obeys names line

/-- The state of every interface is asked for in turn. -/
theorem WirelessInterface.follows (target : Target) :
    WirelessInterface.pursuit.Follows (WirelessInterface.scripted target).script := by
  refine ⟨fun reply => Script.collectEach (selectedNames reply.rows) fun name =>
    (scriptedInterface target name).script, rfl, fun reply names named line => ?_⟩
  have selected : selectedNames reply.rows = names.map some := named
  dsimp only
  rw [selected]
  -- What is done with a state asks for nothing more.
  have obeys : ∀ (name : Option String) (reply : Reply),
      (scriptedState target name reply.rows).script.Obeys restConduct := fun name reply =>
    (scriptedState target name reply.rows).obeys.mono
      ⟨fun _ impossible => impossible, fun _ _ => trivial, fun _ ofRow => ofRow⟩
  have steps : ∀ name, (scriptedInterface target name).script =
      (Script.query (stateRequest name)).bind fun reply =>
        (scriptedState target name reply.rows).script := fun _ => rfl
  have turns := inTurn_collectEach steps obeys (names.map some) line
  rw [List.map_map] at turns
  exact turns

section Together

variable {pursuit : Pursuit} {names : List String}

private theorem inTurn_together (together : pursuit.together = true) (nonempty : names ≠ [])
    {rest : Reply → Script Unit} (silent : ∀ reply, (rest reply).outcome? ≠ none) (line : Line) :
    InTurn ((pursuit.texts names).map pursuit.followUp)
      (((Script.query (pursuit.followUp (",".intercalate names))).bind rest).course line).exchanges := by
  -- There is one request about all names, and it is the last one.
  obtain ⟨asked, -, -⟩ := Script.course_query (pursuit.followUp (",".intercalate names)) silent line
  rw [asked, Pursuit.texts, if_pos together, if_neg (by simpa using nonempty)]
  exact .one ⟨line, _⟩

private theorem inTurn_nothing (together : pursuit.together = true) (empty : names = []) (line : Line) :
    InTurn ((pursuit.texts names).map pursuit.followUp)
      ((Script.finish (.ok ())).course line).exchanges := by
  -- Without names there is nothing to ask about.
  rw [Pursuit.texts, if_pos together, empty]
  exact .none

private theorem silent_row {conduct : Conduct} {descriptors : List Descriptor} {target : Target}
    {scope : Scope} {metrics : List Property} {values : List LabelValue}
    {attributes : Wire.Attributes} (labelled) (counts) (bounded) (valued) (described) (adds) (gathers) :
    (@Scripted.row conduct descriptors target scope metrics values attributes labelled counts bounded
      valued described adds gathers).script.outcome? ≠ none := by
  -- The metrics are read without a request, and so are their faults gathered.
  refine Script.silent_bind (Script.silent_emitting _) fun faults => ?_
  rw [Scripted.ite_script]
  split <;> simp [Scripted.pure, Scripted.throw, Script.outcome?]

end Together

/-- Links are asked for once, if there are any. -/
theorem Monitor.follows (target : Target) :
    Monitor.pursuit.Follows (Monitor.scripted target).script := by
  refine ⟨_, rfl, fun reply names named line => ?_⟩
  obtain rfl := presentNames_of_named named
  beta_reduce
  rw [Scripted.ite_script]
  split
  · -- Without names nothing is asked.
    exact inTurn_nothing rfl (List.isEmpty_iff.mp ‹_›) line
  · -- All names stand in one request, and the rows of its reply ask for nothing.
    refine inTurn_together rfl (fun none => ‹¬ _› (List.isEmpty_iff.mpr none)) (fun reply => ?_) line
    exact Script.silent_collectEach fun row => silent_row _ _ _ _ _ _ _

/-- The output of ports is asked for once, if there are any. -/
theorem Poe.follows (target : Target) : Poe.pursuit.Follows (Poe.scripted target).script := by
  refine ⟨_, rfl, fun reply names named line => ?_⟩
  obtain rfl := presentNames_of_named named
  beta_reduce
  rw [Scripted.ite_script]
  split
  · -- Without names nothing is asked.
    exact inTurn_nothing rfl (List.isEmpty_iff.mp ‹_›) line
  · -- All names stand in one request, and the rows of its reply ask for nothing.
    refine inTurn_together rfl (fun none => ‹¬ _› (List.isEmpty_iff.mpr none)) (fun reply => ?_) line
    exact Script.silent_collectEach fun row => silent_row _ _ _ _ _ _ _

/-- Modules are asked for once, if there are any and if they all have a name. -/
theorem Optics.follows (target : Target) : Optics.pursuit.Follows (Optics.scripted target).script := by
  refine ⟨_, rfl, fun reply names named line => ?_⟩
  have told : opticalNames reply.rows = names.map some := named
  beta_reduce
  rw [Scripted.ite_script, told]
  split
  · refine inTurn_nothing rfl ?_ line
    simpa using ‹(names.map some).isEmpty = true›
  · -- As all names are there, they are asked for together.
    have all : (names.map some).mapM id = some names := by
      rw [mapM_eq_some_iff, List.map_id]
    rw [all]
    refine inTurn_together rfl (fun none => ‹¬ _› (by simp [none])) (fun reply => ?_) line
    exact Script.silent_collectEach fun row => silent_row _ _ _ _ _ _ _

/-- Every pursuit follows up on the names. -/
theorem follows_of_listed {pursuit : Pursuit} (listed : pursuit ∈ pursuits) (device : Config.Device)
    (name : String) : pursuit.Follows (scriptOf pursuit.collector device name) := by
  -- The script of a collector is found by its name.
  simp only [pursuits, List.mem_cons, List.not_mem_nil, or_false] at listed
  rcases listed with rfl | rfl | rfl | rfl | rfl
  · exact Dhcp.follows (.ofDevice device name)
  · exact WirelessInterface.follows (.ofDevice device name)
  · exact Monitor.follows (.ofDevice device name)
  · exact Optics.follows (.ofDevice device name)
  · exact Poe.follows (.ofDevice device name)

/-- What is fixed in the requests about names can be written. -/
theorem fixed_writable : ∀ pursuit ∈ pursuits,
    (∀ word ∈ pursuit.command :: pursuit.settings, Encodable word ∧ word.length < 2 ^ 32 ∧ word ≠ "") ∧
      Encodable pursuit.mark ∧ pursuit.mark ≠ "" := by
  -- Each of the fixed words is computed.
  decide +kernel

namespace Pursuit

variable {pursuit : Pursuit}

/-- The texts of names are joined as their bytes are. -/
theorem texts_decode (names : List (List UInt8)) :
    pursuit.texts (names.map decode) = (pursuit.parts names).map decode := by
  -- Names that stand together are joined by commas, as texts and as bytes.
  have comma : decode [commaByte] = "," := by decide +kernel
  unfold texts parts
  cases pursuit.together with
  | false => rfl
  | true => cases names <;> simp [decode_intercalate, comma]

/-- The request about some bytes is sent as such if they fit, and otherwise it is not sent. -/
theorem wordsSent_followUp (listed : pursuit ∈ pursuits) {exchange : Exchange} {part : List UInt8}
    (isOpen : exchange.line.client.isClosed = false)
    (words : exchange.words = pursuit.followUp (decode part)) :
    exchange.wordsSent = pursuit.wordsFor part := by
  obtain ⟨fixed, mark, marked⟩ := fixed_writable pursuit listed
  have size : (pursuit.mark ++ decode part).length = pursuit.mark.length + part.length := by
    rw [String.length_append, length_decode]
  have writable : Writable (pursuit.mark ++ decode part) ↔ pursuit.Fits part := by
    rw [Writable, Fits, size, encodable_append_iff, encodable_decode_iff, and_iff_right mark]
  unfold wordsFor
  split
  · rename_i fits
    obtain ⟨command, settings⟩ := List.forall_mem_cons.mp fixed
    have all : ∀ word ∈ exchange.words, Writable word ∧ word ≠ "" := by
      rw [words, followUp]
      refine List.forall_mem_cons.mpr ⟨⟨⟨command.1, command.2.1⟩, command.2.2⟩,
        List.forall_mem_cons.mpr ⟨⟨writable.mpr fits, ?_⟩, fun word member => ?_⟩⟩
      · exact fun empty => marked (String.append_eq_empty_iff.mp empty).1
      · obtain ⟨encodable, short, some⟩ := settings word member
        exact ⟨⟨encodable, short⟩, some⟩
    obtain ⟨bytes, written⟩ := exists_encodeSentence fun word member => (all word member).1
    rw [Exchange.wordsSent_of_written isOpen written fun word member => (all word member).2, words]
    -- The bytes of the text are those from which it was read.
    have same : bytesOf (decode part) = part := filterMap_byteOfChar?_decode fits.1
    simp [followUp, wordsAbout, same]
  · rename_i misfit
    cases written : encodeSentence exchange.words with
    | error fault => exact Exchange.wordsSent_of_unwritten written
    | ok bytes =>
      obtain ⟨-, -, -, all⟩ := encodeSentence_ok written
      rw [words] at all
      exact absurd (writable.mp (all _ (by simp [followUp]))) misfit

/-- In the words about some bytes these bytes stand behind the mark. -/
theorem partIn?_wordsFor (part : List UInt8) :
    pursuit.partIn? (pursuit.wordsFor part) = if pursuit.Fits part then some part else none := by
  -- Words are only there if the bytes fit.
  unfold wordsFor
  split
  · simp [partIn?, wordsAbout]
  · rfl

/-- The first requests about names stand for all of them exactly if there are no more, and they are apart. -/
theorem namesAmong_take (names : List (List UInt8)) {count : Nat}
    (within : count ≤ (pursuit.parts names).length) :
    ((pursuit.parts names).take count).flatMap pursuit.namesAmong = names ↔
      count = (pursuit.parts names).length ∧
        (pursuit.together = true → ∀ name ∈ names, commaByte ∉ name) := by
  cases joined : pursuit.together with
  | false =>
    -- Every request is about one name.
    have each : pursuit.parts names = names := by simp [parts, joined]
    have single : pursuit.namesAmong = fun part => [part] :=
      funext fun part => by simp [namesAmong, joined]
    rw [each] at within ⊢
    rw [single, List.flatMap_singleton', List.take_eq_self_iff]
    simp only [Bool.false_eq_true, false_implies, and_true]
    omega
  | true =>
    cases names with
    | nil =>
      have none : pursuit.parts [] = [] := by simp [parts]
      rw [none] at within ⊢
      simpa using within
    | cons name names =>
      have one : pursuit.parts (name :: names) = [[commaByte].intercalate (name :: names)] := by
        simp [parts, joined]
      have split : pursuit.namesAmong = fun part => part.splitOn commaByte :=
        funext fun part => by simp [namesAmong, joined]
      rw [one, List.length_singleton] at within ⊢
      rw [split]
      -- The only request is made or it is not.
      rcases Nat.le_one_iff_eq_zero_or_eq_one.mp within with rfl | rfl
      · simp
      · simpa using splitOn_intercalate_iff commaByte (List.cons_ne_nil name names)

/-- All names are told exactly if all requests about them are made and fit, and they are apart. -/
theorem tells_iff {names : List (List UInt8)} {first : Exchange} {followUps : List Exchange}
    (sent : followUps.map Exchange.wordsSent <+: (pursuit.parts names).map pursuit.wordsFor) :
    pursuit.Tells names (first :: followUps) ↔
      followUps.length = (pursuit.parts names).length ∧
        (∀ part ∈ pursuit.parts names, pursuit.Fits part) ∧
        (pursuit.together = true → ∀ name ∈ names, commaByte ∉ name) := by
  have count : followUps.length ≤ (pursuit.parts names).length := by simpa using sent.length_le
  have words : followUps.map Exchange.wordsSent =
      ((pursuit.parts names).take followUps.length).map pursuit.wordsFor := by
    rw [List.map_take]
    simpa using List.prefix_iff_eq_take.mp sent
  -- What the requests say are the parts of those that were made, if all of these fit.
  have said : ∀ told, followUps.mapM (fun exchange => pursuit.partIn? exchange.wordsSent) = some told ↔
      told = (pursuit.parts names).take followUps.length ∧ ∀ part ∈ told, pursuit.Fits part := by
    intro told
    have each : followUps.map (fun exchange => pursuit.partIn? exchange.wordsSent) =
        ((pursuit.parts names).take followUps.length).map fun part =>
          if pursuit.Fits part then some part else none := by
      have mapped := congrArg (List.map pursuit.partIn?) words
      rw [List.map_map, List.map_map] at mapped
      exact mapped.trans (List.map_congr_left fun part _ => partIn?_wordsFor part)
    rw [mapM_eq_some_iff, each, map_ite_eq_map_some]
  unfold Tells
  rw [List.tail_cons, Option.map_eq_some_iff]
  constructor
  · rintro ⟨told, ended, names⟩
    obtain ⟨rfl, fits⟩ := (said told).mp ended
    obtain ⟨all, apart⟩ := (namesAmong_take _ count).mp names
    rw [all, List.take_length] at fits
    exact ⟨all, fits, apart⟩
  · rintro ⟨all, fits, apart⟩
    refine ⟨_, (said _).mpr ⟨rfl, fun part member => fits part (List.mem_of_mem_take member)⟩, ?_⟩
    exact (namesAmong_take names count).mpr ⟨all, apart⟩

end Pursuit

section Turns

variable {pursuit : Pursuit}

/-- The names of a reply are the texts of those that come in it. -/
theorem namesOf_of_answer {exchange : Exchange} {reply : Reply} (answered : exchange.answer = .ok reply)
    {names : List (List UInt8)} (came : pursuit.namesIn exchange = names.map some) :
    pursuit.namesOf reply.rows = (names.map decode).map some := by
  -- The rows of the reply are read from the bytes in which the names come.
  have read : ((rowsAt exchange.readable).filter fun row => pursuit.selects row.sentence).map
      (fun row => row.sentence.get? "name") =
        (pursuit.namesIn exchange).map fun bytes => bytes.map decode := by
    rw [Pursuit.namesIn, List.map_map]
    refine List.map_congr_left fun row member => ?_
    exact (isRead_of_rowsAt _ row (List.mem_of_mem_filter member)).get?_eq "name"
  rw [Pursuit.namesOf, Exchange.rows_of_answer answered, List.filter_map, List.map_map]
  refine read.trans ?_
  rw [came]
  simp

/-- A turn asks for the names first, and then in turn about those that the reply tells. -/
theorem inTurn_of_names (listed : pursuit ∈ pursuits) (device : Config.Device) (name : String)
    {line : Line} {names : List (List UInt8)}
    (accepted : (Exchange.mk line pursuit.request).Accepted)
    (came : pursuit.namesIn ⟨line, pursuit.request⟩ = names.map some) :
    ∃ followUps, ((scriptOf pursuit.collector device name).course line).exchanges =
        ⟨line, pursuit.request⟩ :: followUps ∧
      InTurn ((pursuit.parts names).map fun part => pursuit.followUp (decode part)) followUps := by
  obtain ⟨reply, answered⟩ := accepted
  obtain ⟨next, shape, turns⟩ := follows_of_listed listed device name
  -- The line on which the follow-ups are made is the one that the first request has left.
  have named := turns reply (names.map decode) (namesOf_of_answer answered came)
    (Exchange.mk line pursuit.request).after
  rw [Pursuit.texts_decode, List.map_map] at named
  refine ⟨_, ?_, named⟩
  rw [shape, Script.course_bind]
  simp only [Script.query, Script.course, answered, Except.mapError, List.singleton_append]

/-- What requests about some bytes send is what these bytes allow. -/
theorem wordsSent_of_words (listed : pursuit ∈ pursuits) {exchanges : List Exchange}
    {parts : List (List UInt8)}
    (isOpen : ∀ exchange ∈ exchanges, exchange.line.client.isClosed = false)
    (words : exchanges.map Exchange.words <+: parts.map fun part => pursuit.followUp (decode part)) :
    exchanges.map Exchange.wordsSent <+: parts.map pursuit.wordsFor := by
  induction exchanges generalizing parts with
  | nil => exact List.nil_prefix
  | cons exchange exchanges ih =>
    obtain ⟨here, later⟩ := List.forall_mem_cons.mp isOpen
    -- There are at least as many parts as requests.
    cases parts with
    | nil => simp at words
    | cons part parts =>
      obtain ⟨own, others⟩ := List.cons_prefix_cons.mp words
      exact List.cons_prefix_cons.mpr
        ⟨Pursuit.wordsSent_followUp listed here own, ih later others⟩

/--
A turn of a collector that goes on with the names of its first reply.

It sends one request about each name, or one about all of them, and goes on as long as it is
answered. Each request says the bytes of its names as they came, unless they do not fit into a word:
then it is not sent. So the names are told exactly if all requests are made and fit and, where names
are joined by commas, no name has a comma itself.
-/
theorem names_followed_up (listed : pursuit ∈ pursuits) (device : Config.Device) (name : String)
    {line : Line} {names : List (List UInt8)}
    (accepted : (Exchange.mk line pursuit.request).Accepted)
    (came : pursuit.namesIn ⟨line, pursuit.request⟩ = names.map some) :
    let turn := (scriptOf pursuit.collector device name).course line
    (∀ ledger, pursuit.collector.collect (.ofDevice device name) ⟨line, ledger⟩ =
        resultOf turn.outcome ⟨turn.line, ledger.followedBy turn.added⟩) ∧
      turn.line.events = line.events ++ turn.exchanges.flatMap Exchange.sends ∧
      ∃ followUps, turn.exchanges = ⟨line, pursuit.request⟩ :: followUps ∧
        followUps.map Exchange.wordsSent <+: (pursuit.parts names).map pursuit.wordsFor ∧
        (followUps.length < (pursuit.parts names).length →
          ∃ last, followUps.getLast? = some last ∧ ¬ last.Accepted) ∧
        (pursuit.Tells names turn.exchanges ↔
          followUps.length = (pursuit.parts names).length ∧
            (∀ part ∈ pursuit.parts names, pursuit.Fits part) ∧
            (pursuit.together = true → ∀ name ∈ names, commaByte ∉ name)) := by
  intro turn
  obtain ⟨followUps, exchanges, inTurn⟩ := inTurn_of_names listed device name accepted came
  obtain ⟨-, -, events, -⟩ :=
    Script.course_keeps (scriptOf pursuit.collector device name) line
  have registered : pursuit.collector ∈ all := by
    simp only [pursuits, List.mem_cons, List.not_mem_nil, or_false] at listed
    rcases listed with rfl | rfl | rfl | rfl | rfl <;>
      simp [all, Dhcp.pursuit, WirelessInterface.pursuit, Monitor.pursuit, Optics.pursuit, Poe.pursuit]
  -- The first request was accepted, and since then the client has been open.
  have isOpen : ∀ exchange ∈ followUps, exchange.line.client.isClosed = false := by
    intro exchange member
    have inside : exchange ∈ turn.exchanges := exchanges ▸ List.mem_cons_of_mem _ member
    exact (Script.course_isClosed _ line exchange inside).trans accepted.written.1
  have sent := wordsSent_of_words listed isOpen inTurn.words
  have stopped := inTurn.stopped
  rw [List.length_map] at stopped
  refine ⟨fun ledger => ?_, events, followUps, exchanges, sent, stopped, ?_⟩
  · rw [← perform_scriptOf registered, Script.perform_eq]
  · rw [exchanges]
    exact Pursuit.tells_iff sent

/-- A line to a device that answers its requests with replies of these bytes. -/
def lineTo (replies : List (List UInt8)) : Line :=
  ⟨.ofLink (.fresh 0 (replies.map fun bytes => .answer bytes none)), []⟩

/-- The bytes of a reply with one row for each name. -/
def namesReply (names : List (List UInt8)) : List UInt8 :=
  (names.flatMap fun name =>
    [3, 33, 114, 101, UInt8.ofNat (name.length + 6), 61, 110, 97, 109, 101, 61] ++ name ++ [0]) ++
      [5, 33, 100, 111, 110, 101, 0]

/-- The bytes of a reply with a trap. -/
def trapReply : List UInt8 := [5, 33, 116, 114, 97, 112, 0, 5, 33, 100, 111, 110, 101, 0]

/--
Names that are not told: one with a byte without a character is not asked about, one with a comma
is asked about as two, and one is not asked about where the request for the name before it is refused.
-/
theorem names_not_told :
    let turns : List (Pursuit × Line × List (List UInt8)) :=
      [(Dhcp.pursuit, lineTo [namesReply [[0x81]]], [[0x81]]),
        (Monitor.pursuit, lineTo [namesReply [[97, 44, 98]], namesReply []], [[97, 44, 98]]),
        (Dhcp.pursuit, lineTo [namesReply [[97], [98]], trapReply], [[97], [98]])]
    ∀ turn ∈ turns, turn.1 ∈ pursuits ∧
      (Exchange.mk turn.2.1 turn.1.request).Accepted ∧
      turn.1.namesIn ⟨turn.2.1, turn.1.request⟩ = turn.2.2.map some ∧
      (∀ name ∈ turn.2.2, name ≠ []) ∧
      ¬ turn.1.Tells turn.2.2 ((scriptOf turn.1.collector {} turn.1.collector.name).course
        turn.2.1).exchanges := by
  intro turns turn member
  simp only [turns, List.mem_cons, List.not_mem_nil, or_false] at member
  -- Each of the three turns is computed.
  rcases member with rfl | rfl | rfl
  all_goals
    refine ⟨by simp [pursuits], by decide +kernel, by decide +kernel, by decide, by decide +kernel⟩

/-- Two ports, one of them with a letter beyond plain text, are asked about together. -/
theorem names_followed_up_together :
    let line := lineTo [namesReply [[101, 49], [0xE8]], namesReply []]
    let names : List (List UInt8) := [[101, 49], [0xE8]]
    let turn := (scriptOf Monitor.collector {} "monitor").course line
    (Exchange.mk line Monitor.namesRequest).Accepted ∧
      Monitor.pursuit.namesIn ⟨line, Monitor.namesRequest⟩ = names.map some ∧
      Monitor.pursuit.Tells names turn.exchanges := by
  intro line names turn
  have accepted : (Exchange.mk line Monitor.namesRequest).Accepted := by decide +kernel
  have came : Monitor.pursuit.namesIn ⟨line, Monitor.namesRequest⟩ = names.map some := by
    decide +kernel
  have listed : Monitor.pursuit ∈ pursuits := by simp [pursuits]
  obtain ⟨-, -, followUps, exchanges, -, -, told⟩ :=
    names_followed_up listed {} "monitor" accepted came
  have two : turn.exchanges.length = 2 := by decide +kernel
  -- One request has been made for the names, which is all that the theorem asks.
  have one : followUps.length = 1 := Nat.succ.inj ((congrArg List.length exchanges).symm.trans two)
  exact ⟨accepted, came, told.mpr ⟨one, by decide +kernel, fun _ => by decide⟩⟩

end Turns

end RouterMetrics.Collector
