import RouterMetrics.Proofs.Collector.Hindering
import RouterMetrics.Proofs.Collector.Planned

/-!
What a wrong value in one row or answer costs the others.

Main statement: a collector keeps to its plan whatever is wrong with single shares, but for four
collectors, each of which is kept from the rest of its plan by something of its own.
-/

namespace RouterMetrics.Collector

open RouterMetrics.Metric
open RouterMetrics.Session (Exchange Line Reply)

/-- The scrape that a collector leaves behind, however it ends. -/
def scrapeOf : EStateM.Result Fault Scrape Unit → Scrape
  | .ok () scrape | .error _ scrape => scrape

/--
What is wrong with one share of a plan costs the others nothing.

All requests of the plan are made, the samples of all shares are added, and a collector fails with
gathered faults at the end exactly if something was wrong.
-/
@[mk_iff]
structure KeptApart (plan : Plan) (collect : Collecting Unit) (scrape : Scrape) : Prop where
  asked : (scrapeOf (collect scrape)).line.events =
    scrape.line.events ++ (plan.itinerary scrape.line).exchanges.flatMap Exchange.sends
  added : (scrapeOf (collect scrape)).ledger.additions =
    scrape.ledger.additions ++ (plan.itinerary scrape.line).samples
  well : (plan.itinerary scrape.line).Clean → ∃ after, collect scrape = .ok () after
  gathers : ¬ (plan.itinerary scrape.line).Clean →
    ∃ causes after, collect scrape = .error (.gathered heading causes) after

section Plans

variable {plan : Plan} {collect : Collecting Unit} {scrape : Scrape} {oddities : List Oddity}

/-- A collector that gets to the end of its plan with nothing wrong keeps to it. -/
theorem keptApart_of_ok (clean : (plan.itinerary scrape.line).Clean)
    (ended : collect scrape =
      .ok () ((plan.itinerary scrape.line).completing scrape.ledger oddities)) :
    KeptApart plan collect scrape where
  asked := by rw [ended]; exact plan.itinerary_events scrape.line
  added := by rw [ended]; rfl
  well _ := ⟨_, ended⟩
  -- Where nothing is wrong there is nothing to gather.
  gathers wrong := absurd clean wrong

/-- A collector that gathers faults at the end of its plan keeps to it. -/
theorem keptApart_of_gathered {fault : Fault} (wrong : ¬ (plan.itinerary scrape.line).Clean)
    (gathered : IsGathered fault)
    (ended : collect scrape =
      .error fault ((plan.itinerary scrape.line).completing scrape.ledger oddities)) :
    KeptApart plan collect scrape where
  asked := by rw [ended]; exact plan.itinerary_events scrape.line
  added := by rw [ended]; rfl
  well clean := absurd clean wrong
  gathers _ := by
    -- Where something is wrong there is no way to end well.
    obtain ⟨causes, rfl⟩ := gathered
    exact ⟨causes, _, ended⟩

/-- A collector that does what is planned keeps to its plan as long as nothing is wrong. -/
theorem Does.keptApart (does : Does collect plan) (answered : plan.Answered scrape.line)
    (clean : (plan.itinerary scrape.line).Clean) : KeptApart plan collect scrape := by
  -- What a collector does is told for the case that nothing is wrong.
  obtain ⟨oddities, ended⟩ := does scrape answered clean
  exact keptApart_of_ok clean ended

/-- A collector that fulfils its plan and gathers faults keeps to it in any case. -/
theorem Fulfils.keptApart (fulfils : Fulfils IsGathered collect plan)
    (answered : plan.Answered scrape.line) : KeptApart plan collect scrape := by
  -- Either nothing is wrong, or what is wrong has been gathered.
  by_cases clean : (plan.itinerary scrape.line).Clean
  · exact fulfils.does.keptApart answered clean
  · obtain ⟨fault, oddities, gathered, ended⟩ := fulfils.fails scrape answered clean
    exact keptApart_of_gathered clean gathered ended

/-- A collector that keeps to its plan fails with gathered faults only. -/
theorem KeptApart.isGathered {fault : Fault} {after : Scrape} (kept : KeptApart plan collect scrape)
    (failed : collect scrape = .error fault after) : IsGathered fault := by
  -- How the collector ends is told in both cases, and it fails in one of them only.
  by_cases clean : (plan.itinerary scrape.line).Clean
  · obtain ⟨other, ended⟩ := kept.well clean
    cases failed.symm.trans ended
  · obtain ⟨causes, other, ended⟩ := kept.gathers clean
    cases failed.symm.trans ended
    exact isGathered_heading causes

/-- What is kept to behind an answered query is kept to with the query. -/
theorem keptApart_ask {words : List String} {plans : Reply → Plan} (after : Reply → Collecting Unit)
    (answered : (Plan.ask words plans).Answered scrape.line) :
    ∃ reply, (Exchange.mk scrape.line words).answer = .ok reply ∧
      let next : Scrape := ⟨(Exchange.mk scrape.line words).after, scrape.ledger⟩
      (plans reply).Answered next.line ∧
        (KeptApart (.ask words plans) (query words >>= after) scrape ↔
          KeptApart (plans reply) (after reply) next) := by
  obtain ⟨reply, replied, later, led, clean, -⟩ := answered_ask after answered
  obtain ⟨other, repliedToo, -, whole⟩ := Plan.itinerary_ask answered
  cases replied.symm.trans repliedToo
  refine ⟨reply, replied, later, ?_⟩
  -- The query adds no sample, and it is seen before the other requests.
  have events := (Exchange.mk scrape.line words).after_keeps.2.2.2
  rw [keptApart_iff, keptApart_iff, led, clean, whole]
  simp [Itinerary.followedBy, Itinerary.samples, events]

/-- A collector that ends behind the first of two plans does not keep to both if the other asks. -/
theorem not_keptApart_of_stopped {first : Plan} {words : List String} {plans : Reply → Plan}
    {fault : Fault} (answered : (first.followedBy (.ask words plans)).Answered scrape.line)
    (ended : collect scrape =
      .error fault ((first.itinerary scrape.line).completing scrape.ledger oddities)) :
    ¬ KeptApart (first.followedBy (.ask words plans)) collect scrape := by
  intro kept
  obtain ⟨-, behind, whole⟩ := Plan.itinerary_followedBy answered
  obtain ⟨reply, replied, -, second⟩ := Plan.itinerary_ask behind
  have asked := kept.asked
  rw [ended, whole, second] at asked
  -- Nothing is seen of the next request, although an accepted one can be seen.
  let exchange : Exchange := ⟨(first.itinerary scrape.line).line, words⟩
  have unseen : exchange.sends = [] ∧
      ((plans reply).itinerary exchange.after).exchanges.flatMap Exchange.sends = [] := by
    simpa [exchange, scrapeOf, Itinerary.completing, Plan.itinerary_events, Itinerary.followedBy]
      using asked
  exact Session.Exchange.Accepted.sends_ne_nil ⟨reply, replied⟩ unseen.1

end Plans

namespace Pool

/-- With IPv6 pools to be read, something is wrong with IPv4 ones. -/
def Spoilt (target : Target) (line : Line) : Prop :=
  target.ipv6Disabled = false ∧ ¬ ((plan target).itinerary line).Clean

/-- Nothing is ever wrong with the counts of IPv6 pools. -/
theorem clean_ipv6 {target : Target} {line : Line} (answered : (ipv6Plan target).Answered line) :
    ((ipv6Plan target).itinerary line).Clean := by
  -- Counts are numbers, and their labels are the pools and the device.
  obtain ⟨reply, -, -, whole⟩ := Plan.itinerary_ask answered
  rw [ipv6Plan, whole, Itinerary.clean_followedBy_iff, Plan.itinerary_shares]
  refine ⟨nofun, fun share member => ?_⟩
  obtain ⟨⟨pool, used⟩, -, rfl⟩ := List.mem_map.mp member
  rfl

/-- Faults of IPv4 pools keep IPv6 pools from being asked for, and cost nothing without IPv6. -/
theorem keptApart_iff_not_spoilt {target : Target} {scrape : Scrape}
    (answered : (plan target).Answered scrape.line) :
    KeptApart (plan target) (collect target) scrape ↔ ¬ Spoilt target scrape.line := by
  -- Without IPv6 the plan has one request only, whose rows are kept apart in any case.
  cases disabled : target.ipv6Disabled with
  | true =>
    have alone : plan target = ipv4Plan target := by simp [plan, disabled]
    have alone' : collect target = collectIpv4 target := by simp [collect, disabled]
    rw [alone] at answered
    rw [alone, alone']
    exact iff_of_true ((fulfils_ipv4 target).keptApart answered) (by simp [Spoilt, disabled])
  | false =>
    have both : plan target = (ipv4Plan target).followedBy (ipv6Plan target) := by
      simp [plan, disabled]
    have both' : collect target = (collectIpv4 target >>= fun _ => collectIpv6 target) := by
      simp [collect, disabled]
    unfold Spoilt
    rw [both] at answered
    rw [both, both', disabled]
    by_cases clean : (((ipv4Plan target).followedBy (ipv6Plan target)).itinerary scrape.line).Clean
    · refine iff_of_true ?_ fun spoilt => spoilt.2 clean
      exact ((fulfils_ipv4 target).does.bind (does_ipv6 target)).keptApart answered clean
    · refine iff_of_false ?_ (not_not.mpr ⟨rfl, clean⟩)
      obtain ⟨before, behind, whole⟩ := Plan.itinerary_followedBy answered
      have wrong := mt (fun first => ⟨first, clean_ipv6 behind⟩)
        (mt Itinerary.clean_followedBy_iff.mpr (whole ▸ clean))
      -- The collector fails with the IPv4 pools, and the second request is missing.
      obtain ⟨fault, oddities, -, failed⟩ := (fulfils_ipv4 target).fails scrape before wrong
      have ended : (collectIpv4 target >>= fun _ => collectIpv6 target) scrape =
          .error fault
            (((ipv4Plan target).itinerary scrape.line).completing scrape.ledger oddities) := by
        simp only [Bind.bind, EStateM.bind, failed]
      exact not_keptApart_of_stopped answered ended

end Pool

namespace Routes

/-- A count is no number. -/
def Spoilt (target : Target) (line : Line) : Prop := ¬ ((plan target).itinerary line).Clean

/-- A count that is no number keeps the others from being asked for, and is not gathered. -/
theorem keptApart_iff_not_spoilt {target : Target} {scrape : Scrape}
    (answered : (plan target).Answered scrape.line) :
    KeptApart (plan target) (collect target) scrape ↔ ¬ Spoilt target scrape.line := by
  by_cases clean : ((plan target).itinerary scrape.line).Clean
  · exact iff_of_true ((does target).keptApart answered clean) (not_not.mpr clean)
  · refine iff_of_false (fun kept => ?_) (not_not.mpr clean)
    obtain ⟨causes, after, failed⟩ := kept.gathers clean
    -- The collector has no gathered faults of its own.
    rw [← (scripted target).performs, Script.perform_eq] at failed
    cases outcome : ((scripted target).script.course scrape.line).outcome with
    | ok _ =>
      rw [outcome] at failed
      cases failed
    | error fault =>
      rw [outcome] at failed
      cases failed
      rcases (scripted target).obeys.fails outcome with ⟨cause, same⟩ | ⟨_, _, met, _, same⟩
      · cases same
      · cases same

end Routes

namespace Optics

/-- Among the optical interfaces one has no name. -/
def Spoilt (line : Line) : Prop :=
  ∃ reply, (Exchange.mk line namesRequest).answer = .ok reply ∧ Nameless reply

/-- What is done with the interfaces: the modules of the optical ones are read if they are all told. -/
def readNamed (target : Target) (reply : Reply) : Collecting Unit := do
  let names := opticalNames reply.rows
  if names.isEmpty then return ()
  let some names := names.mapM id | throw .missingName
  let reply ← query (modulesRequest names)
  collectEach (reply.rows.filter fun row => row.attributes.contains "name") fun row =>
    collectMetrics metrics row.attributes (target.scope.withLabels [some (row.get "name")])

/-- The interfaces are asked for before anything is done with them. -/
theorem collect_eq (target : Target) :
    collect target = query namesRequest >>= readNamed target := rfl

private theorem fulfils_named (target : Target) {reply : Reply} {names : List String}
    (told : (opticalNames reply.rows).mapM id = some names) :
    Fulfils IsGathered (readNamed target reply)
      (if names.isEmpty then .done else modulesPlan target names) := by
  have listed : opticalNames reply.rows = names.map some := by
    simpa using mapM_eq_some_iff.mp told
  -- Nobody is asked about exactly if no name was told.
  have none : (opticalNames reply.rows).isEmpty = names.isEmpty := by
    rw [listed, List.isEmpty_map]
  unfold readNamed
  simp only [told, none]
  exact .ite .pure (.ofRows metrics_bounded)

private theorem missing_named (target : Target) {reply : Reply} (scrape : Scrape)
    (missing : (opticalNames reply.rows).mapM id = none) :
    readNamed target reply scrape = .error .missingName scrape := by
  -- There is an optical interface, so its name is asked for.
  have some : opticalNames reply.rows ≠ [] := fun none => by simp [none] at missing
  simp [readNamed, some, missing, throw, throwThe, MonadExceptOf.throw, EStateM.throw]

/-- Modules are kept apart, but an interface without a name keeps all of them from being asked for. -/
theorem keptApart_iff_not_spoilt {target : Target} {scrape : Scrape}
    (answered : (plan target).Answered scrape.line) :
    KeptApart (plan target) (collect target) scrape ↔ ¬ Spoilt scrape.line := by
  obtain ⟨reply, replied, later, same⟩ := keptApart_ask (readNamed target) answered
  have spoilt : Spoilt scrape.line ↔ Nameless reply := by
    refine ⟨?_, fun nameless => ⟨reply, replied, nameless⟩⟩
    rintro ⟨other, repliedToo, nameless⟩
    cases replied.symm.trans repliedToo
    exact nameless
  -- The names decide: one that is missing is a fault of its own, which is not gathered.
  rw [collect_eq, plan, same, spoilt, Nameless, ← opticalNames_missing]
  cases told : (opticalNames reply.rows).mapM id with
  | none =>
    refine iff_of_false (fun kept => ?_) (not_not.mpr rfl)
    obtain ⟨causes, same⟩ := kept.isGathered (missing_named target _ told)
    cases same
  | some names =>
    have listed : (opticalNames reply.rows).filterMap id = names := by
      rw [mapM_eq_some_iff, List.map_id] at told
      simp [told]
    rw [listed] at later ⊢
    exact iff_of_true ((fulfils_named target told).keptApart later) nofun

end Optics

namespace Resource

/-- A row behind which another one comes is faulty, or a number goes beyond the range of doubles. -/
def Cut (shares : List Share) : Prop :=
  (∃ share ∈ shares.dropLast, share.faults ≠ []) ∨
    ∃ share ∈ shares, ConversionFault.overflow ∈ share.faults

/-- Where nothing is wrong, nothing is cut off. -/
theorem not_cut {shares : List Share} (clean : ∀ share ∈ shares, share.faults = []) :
    ¬ Cut shares := by
  -- Both ways to be cut off begin with something wrong.
  rintro (⟨share, member, wrong⟩ | ⟨share, member, beyond⟩)
  · exact wrong (clean share (List.mem_of_mem_dropLast member))
  · rw [clean share member] at beyond
    exact List.not_mem_nil beyond

/-- The last share cuts nothing off if it is within the range. -/
theorem not_cut_concat {shares : List Share} {last : Share}
    (clean : ∀ share ∈ shares, share.faults = []) (inRange : .overflow ∉ last.faults) :
    ¬ Cut (shares ++ [last]) := by
  rintro (⟨share, member, wrong⟩ | ⟨share, member, beyond⟩)
  · -- What is wrong with the last share has nothing behind it.
    rw [List.dropLast_concat] at member
    exact wrong (clean share member)
  · -- Going beyond the range is the only way in which the last share would count.
    rcases List.mem_append.mp member with first | rest
    · exact not_cut clean (.inr ⟨share, first, beyond⟩)
    · rw [List.mem_singleton.mp rest] at beyond
      exact inRange beyond

/-- The rows are not all read to their ends. -/
def Spoilt (target : Target) (line : Line) : Prop := Cut ((plan target).itinerary line).shares

section Rows

variable {target : Target} (plain : target.Plain) (row : Wire.Sentence)

include plain

/-- The sample of the version has a value for each label. -/
theorem version_fits : (version target row).fault? = none := by
  -- There are as many texts as labels, and the texts are there.
  unfold version
  rw [plain]
  rfl

/-- The version comes first, and nothing is wrong with it. -/
theorem shareOf_eq :
    shareOf target row =
      ⟨version target row :: rowSamples metrics row.attributes target.scope.labels,
        metrics.filterMap fun metric => metric.fault? row.attributes target.scope.labels⟩ := by
  -- Nothing is wrong with the version, so that the faults are those of the metrics.
  simp [shareOf, Share.ofSample, Share.andThen, Share.ofRow, version_fits plain]

/-- A row within the range comes to its share. -/
theorem gives_row (inRange : .overflow ∉ (shareOf target row).faults) :
    Gives IsGathered (collectRow target row) (shareOf target row) := by
  rw [shareOf_eq plain] at inRange
  refine .bind (.sample fun fault faulty => ?_) (.row fun metric member overflow => inRange ?_)
  · -- The version comes before the metrics, and it always fits.
    cases (version_fits plain row).symm.trans faulty
  · -- A metric beyond the range would be one of the faults.
    exact List.mem_filterMap.mpr ⟨metric, member, overflow⟩

/-- A row with a number beyond the range ends there. -/
theorem overflow_row (beyond : .overflow ∈ (shareOf target row).faults) (scrape : Scrape) :
    ∃ after, collectRow target row scrape = .error .overflow after := by
  rw [shareOf_eq plain, List.mem_filterMap] at beyond
  -- The metrics before the first such number have their turns.
  obtain ⟨before, metric, after, split, inRange, overflow⟩ := exists_first beyond
  have sampled : Gives (fun _ => True) (emitting (emit (version target row)))
      (.ofSample (version target row)) := .sample fun _ _ => trivial
  obtain ⟨oddities, went, -⟩ := sampled scrape
  obtain ⟨others, stopped⟩ := collectMetrics_stopped after inRange overflow
    (scrape.gaining (Share.ofSample (version target row)).samples oddities)
  have clean : (Share.ofSample (version target row)).faults = [] := by
    simp [Share.ofSample, version_fits plain]
  have led : collectRow target row scrape = collectMetrics metrics row.attributes target.scope
      (scrape.gaining (Share.ofSample (version target row)).samples oddities) := by
    change (emitting (emit (version target row)) >>= fun _ => _) scrape = _
    simp only [Bind.bind, EStateM.bind, went clean]
  rw [led, split]
  exact ⟨_, stopped⟩

/-- Every row has at least one sample. -/
theorem shareOf_samples_ne_nil : (shareOf target row).samples ≠ [] := by
  -- The version is a sample, whatever else the row has.
  rw [shareOf_eq plain]
  exact List.cons_ne_nil _ _

variable {before : List Wire.Sentence}
  (clean : ∀ earlier ∈ before, (shareOf target earlier).faults = [])

include clean

/-- Rows with nothing wrong leave the turn to the rows behind them. -/
theorem rows_read (rest : List Wire.Sentence) (scrape : Scrape) :
    ∃ oddities, (before ++ rest).forM (collectRow target) scrape =
      rest.forM (collectRow target)
        (scrape.gaining (before.flatMap fun earlier => (shareOf target earlier).samples) oddities) := by
  -- The scrape gains the samples of each row before the next one is read.
  induction before generalizing scrape with
  | nil => exact ⟨scrape.ledger.oddities, by simp [Scrape.gaining]⟩
  | cons first before ih =>
    obtain ⟨own, others⟩ := List.forall_mem_cons.mp clean
    obtain ⟨earlier, went, -⟩ := gives_row plain first (by simp [own]) scrape
    obtain ⟨later, wentOn⟩ := ih others (scrape.gaining (shareOf target first).samples earlier)
    refine ⟨later, ?_⟩
    simp only [List.forM_eq_forM] at wentOn ⊢
    rw [List.cons_append, List.forM_cons]
    simp only [Bind.bind, EStateM.bind, went own, wentOn]
    simp [Scrape.gaining]

variable {row} (after : List Wire.Sentence) (scrape : Scrape)

/-- The first row with something wrong ends the rows if it goes beyond the range. -/
theorem rows_overflow (beyond : .overflow ∈ (shareOf target row).faults) :
    ∃ left, (before ++ row :: after).forM (collectRow target) scrape = .error .overflow left := by
  -- The rows before are read, and the fault of this one is not caught.
  obtain ⟨oddities, went⟩ := rows_read plain clean (row :: after) scrape
  obtain ⟨left, stopped⟩ := overflow_row plain row beyond
    (scrape.gaining (before.flatMap fun earlier => (shareOf target earlier).samples) oddities)
  refine ⟨left, ?_⟩
  rw [went, List.forM_eq_forM, List.forM_cons]
  simp only [Bind.bind, EStateM.bind, stopped]

/-- The first row with something wrong ends the rows with gathered faults if it is within the range. -/
theorem rows_rejected (inRange : .overflow ∉ (shareOf target row).faults)
    (wrong : (shareOf target row).faults ≠ []) :
    ∃ fault oddities, IsGathered fault ∧
      (before ++ row :: after).forM (collectRow target) scrape =
        .error fault (scrape.gaining
          ((before ++ [row]).flatMap fun earlier => (shareOf target earlier).samples) oddities) := by
  -- The rows before are read, this one gives its samples, and its faults end the rest.
  obtain ⟨earlier, went⟩ := rows_read plain clean (row :: after) scrape
  obtain ⟨oddities, -, failed⟩ := gives_row plain row inRange
    (scrape.gaining (before.flatMap fun earlier => (shareOf target earlier).samples) earlier)
  obtain ⟨fault, gathered, stopped⟩ := failed wrong
  refine ⟨fault, oddities, gathered, ?_⟩
  rw [went, List.forM_eq_forM, List.forM_cons]
  simp only [Bind.bind, EStateM.bind, stopped]
  simp [Scrape.gaining]

end Rows

/-- Behind rows the scrape has their samples. -/
theorem completing_shares (target : Target) (rows : List Wire.Sentence) (scrape : Scrape)
    (oddities : List Oddity) :
    ((Plan.shares rows (shareOf target)).itinerary scrape.line).completing scrape.ledger oddities =
      scrape.gaining (rows.flatMap fun row => (shareOf target row).samples) oddities := by
  -- Every row adds the samples of its share.
  rw [Plan.itinerary_shares]
  simp [Itinerary.completing, Itinerary.samples, Scrape.gaining, List.flatMap_map]

/-- Rows are kept apart unless one of them is cut off from the others. -/
theorem keptApart_rows_iff {target : Target} (plain : target.Plain) (rows : List Wire.Sentence)
    (scrape : Scrape) :
    KeptApart (.shares rows (shareOf target)) (rows.forM (collectRow target)) scrape ↔
      ¬ Cut (rows.map (shareOf target)) := by
  have clean_iff : ((Plan.shares rows (shareOf target)).itinerary scrape.line).Clean ↔
      ∀ row ∈ rows, (shareOf target row).faults = [] := by
    simp [Plan.itinerary_shares, Itinerary.Clean]
  by_cases faulty : ∃ row ∈ rows, (shareOf target row).faults ≠ []
  · have unclean := mt clean_iff.mp (by simpa using faulty)
    -- The rows are read up to the first one with something wrong.
    obtain ⟨before, row, after, rfl, earlier, wrong⟩ := exists_first faulty
    simp only [not_not] at earlier
    by_cases beyond : .overflow ∈ (shareOf target row).faults
    · refine iff_of_false (fun kept => ?_) (not_not.mpr (.inr ⟨_, by simp, beyond⟩))
      obtain ⟨left, stopped⟩ := rows_overflow plain earlier after scrape beyond
      obtain ⟨causes, same⟩ := kept.isGathered stopped
      cases same
    · obtain ⟨fault, oddities, gathered, stopped⟩ :=
        rows_rejected plain earlier after scrape beyond wrong
      cases after with
      | nil =>
        rw [← completing_shares] at stopped
        refine iff_of_true (keptApart_of_gathered unclean gathered stopped) ?_
        rw [List.map_append, List.map_singleton]
        exact not_cut_concat (List.forall_mem_map.mpr earlier) beyond
      | cons next after =>
        refine iff_of_false (fun kept => ?_) (not_not.mpr (.inl ⟨shareOf target row, ?_, wrong⟩))
        · -- The samples of the next row are missing.
          have added := kept.added
          rw [stopped] at added
          simp [scrapeOf, Scrape.gaining, Plan.itinerary_shares, Itinerary.samples,
            List.flatMap_map, shareOf_samples_ne_nil plain] at added
        · simp
  · have clean : ∀ row ∈ rows, (shareOf target row).faults = [] := by simpa using faulty
    obtain ⟨oddities, went⟩ := rows_read plain clean [] scrape
    rw [List.append_nil, ← completing_shares] at went
    exact iff_of_true (keptApart_of_ok (clean_iff.mpr clean) went)
      (not_cut (List.forall_mem_map.mpr clean))

/-- Rows are kept apart unless one of them is cut off from the others, or from its own samples. -/
theorem keptApart_iff_not_spoilt {target : Target} (plain : target.Plain) {scrape : Scrape}
    (answered : (plan target).Answered scrape.line) :
    KeptApart (plan target) (collect target) scrape ↔ ¬ Spoilt target scrape.line := by
  obtain ⟨reply, replied, -, same⟩ :=
    keptApart_ask (fun reply => reply.rows.forM (collectRow target)) answered
  obtain ⟨other, repliedToo, -, whole⟩ := Plan.itinerary_ask answered
  cases replied.symm.trans repliedToo
  -- What is cut off is told by the shares of the rows, as the query has none.
  have shares : ((plan target).itinerary scrape.line).shares = reply.rows.map (shareOf target) := by
    rw [plan, whole, Plan.itinerary_shares]
    rfl
  rw [Spoilt, shares]
  exact same.trans (keptApart_rows_iff plain reply.rows _)

end Resource

/-- A collector with its plan, and what keeps it from it although all its requests are answered. -/
structure Isolation where
  collector : Collector
  plan : Target → Plan
  spoilt : Target → Line → Prop

/-- Nothing keeps the collector from its plan. -/
def Isolation.always (collector : Collector) (plan : Target → Plan) : Isolation :=
  ⟨collector, plan, fun _ _ => False⟩

/-- All collectors with their plans. -/
def isolations : List Isolation :=
  [⟨Resource.collector, Resource.plan, Resource.Spoilt⟩,
    .always Interface.collector Interface.plan,
    .always Health.collector Health.plan,
    .always DhcpLease.collector DhcpLease.plan,
    ⟨Pool.collector, Pool.plan, Pool.Spoilt⟩,
    .always Conntrack.collector Conntrack.plan,
    .always Netwatch.collector Netwatch.plan,
    .always Firmware.collector Firmware.plan,
    .always WirelessStation.collector WirelessStation.plan,
    .always Dhcp.collector Dhcp.plan,
    ⟨Routes.collector, Routes.plan, Routes.Spoilt⟩,
    .always Queue.collector Queue.plan,
    .always Monitor.collector Monitor.plan,
    .always WirelessInterface.collector WirelessInterface.plan,
    ⟨Optics.collector, Optics.plan, fun _ => Optics.Spoilt⟩,
    .always Poe.collector Poe.plan]

private theorem keptApart_always {collector : Collector} {plan : Target → Plan} {target : Target}
    (fulfils : ∀ target, Fulfils IsGathered (collector.collect target) (plan target))
    {scrape : Scrape} (answered : (plan target).Answered scrape.line) :
    KeptApart (plan target) (collector.collect target) scrape ↔
      ¬ (Isolation.always collector plan).spoilt target scrape.line :=
  iff_of_true ((fulfils target).keptApart answered) id

/--
What is wrong with one row or answer costs the others nothing, unless a collector is spoilt.

Every registered collector whose requests are all answered makes all requests of its plan, adds the
samples of all shares, and gathers faults exactly if there are some. Only resources, pools, routes and
optical modules are kept from it, each exactly by what spoils it.
-/
theorem kept_apart_unless_spoilt {isolation : Isolation} (listed : isolation ∈ isolations)
    (device : Config.Device) (name : String) (scrape : Scrape) :
    let target := Target.ofDevice device name
    isolations.map Isolation.collector = all ∧
      ((isolation.plan target).Answered scrape.line →
        (KeptApart (isolation.plan target) (isolation.collector.collect target) scrape ↔
          ¬ isolation.spoilt target scrape.line)) := by
  intro target
  refine ⟨rfl, fun answered => ?_⟩
  simp only [isolations, List.mem_cons, List.not_mem_nil, or_false] at listed
  -- The collectors are gone through in the order in which they are registered.
  rcases listed with rfl | rfl | rfl | rfl | rfl | rfl | rfl | rfl | rfl | rfl | rfl | rfl | rfl |
    rfl | rfl | rfl
  · exact Resource.keptApart_iff_not_spoilt (Target.plain_ofDevice device name) answered
  · exact keptApart_always Interface.fulfils answered
  · exact keptApart_always Health.fulfils answered
  · exact keptApart_always DhcpLease.fulfils answered
  · exact Pool.keptApart_iff_not_spoilt answered
  · exact keptApart_always Conntrack.fulfils answered
  · exact keptApart_always Netwatch.fulfils answered
  · exact keptApart_always Firmware.fulfils answered
  · exact keptApart_always WirelessStation.fulfils answered
  · exact keptApart_always Dhcp.fulfils answered
  · exact Routes.keptApart_iff_not_spoilt answered
  · exact keptApart_always Queue.fulfils answered
  · exact keptApart_always Monitor.fulfils answered
  · exact keptApart_always WirelessInterface.fulfils answered
  · exact Optics.keptApart_iff_not_spoilt answered
  · exact keptApart_always Poe.fulfils answered

/--
A size that is no number costs a pool nothing but this size, and yet the pools of the other version.

A total of queues that is no number costs simple queues nothing.
-/
theorem size_spoils_pools_not_queues :
    let sentences := fun words : List (List String) =>
      words.flatMap fun sentence => (Wire.encodeSentence sentence).toOption.getD []
    let line := fun first second : List String =>
      Line.mk (.ofLink (.fresh 0
        [.answer (sentences [first, ["!done"]]) none, .answer (sentences [second, ["!done"]]) none])) []
    let pools := line ["!re", "=name=a", "=total=x", "=used=1"] ["!re", "=pool=p"]
    let queues := line ["!re", "=queued-bytes=x"] ["!re", "=name=q", "=bytes=1/2"]
    let target := Target.ofDevice {} ""
    ((Pool.plan target).Answered pools ∧ ¬ ((Pool.plan target).itinerary pools).Clean ∧
        ¬ KeptApart (Pool.plan target) (Pool.collect target) ⟨pools, .empty⟩) ∧
      (Queue.plan target).Answered queues ∧ ¬ ((Queue.plan target).itinerary queues).Clean ∧
        KeptApart (Queue.plan target) (Queue.collect target) ⟨queues, .empty⟩ := by
  intro sentences line pools queues target
  have answered : (Pool.plan target).Answered pools := by decide +kernel
  have wrong : ¬ ((Pool.plan target).itinerary pools).Clean := by decide +kernel
  have answeredToo : (Queue.plan target).Answered queues := by decide +kernel
  have wrongToo : ¬ ((Queue.plan target).itinerary queues).Clean := by decide +kernel
  have poolsListed : ⟨Pool.collector, Pool.plan, Pool.Spoilt⟩ ∈ isolations := by simp [isolations]
  have queuesListed : .always Queue.collector Queue.plan ∈ isolations := by simp [isolations]
  have ofPools := (kept_apart_unless_spoilt poolsListed {} "" ⟨pools, .empty⟩).2 answered
  have ofQueues := (kept_apart_unless_spoilt queuesListed {} "" ⟨queues, .empty⟩).2 answeredToo
  -- With the theorem it is enough to tell which line is spoilt.
  exact ⟨⟨answered, wrong, fun kept => ofPools.mp kept ⟨rfl, wrong⟩⟩, answeredToo, wrongToo,
    ofQueues.mpr id⟩

end RouterMetrics.Collector
