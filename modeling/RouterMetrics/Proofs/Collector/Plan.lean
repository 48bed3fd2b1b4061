import RouterMetrics.Proofs.Collector.Conversions
import RouterMetrics.Proofs.Collector.Sampled
import RouterMetrics.Proofs.Session.Challenge

/-!
Plans: what a collector asks for, and what each row or answer gives, with no regard to faults.

Each share of a plan is told from its own row or answer. Main statement: a loop that gathers the faults
of its items goes to the end of all their plans in any case, a plain loop as long as nothing is wrong.
-/

namespace RouterMetrics.Collector

open RouterMetrics.Metric
open RouterMetrics.Session (Exchange Line Reply)

/-- What one row or one answer gives: its samples, and what is wrong with it. -/
structure Share where
  samples : List Addition
  faults : List ConversionFault

namespace Share

/-- What nothing gives. -/
def nothing : Share := ⟨[], []⟩

/-- One sample. -/
def ofSample (addition : Addition) : Share :=
  match addition.fault? with
  | none => ⟨[addition], []⟩
  | some fault => ⟨[], [.rejected fault]⟩

/-- What a row has for several metrics. -/
def ofRow (metrics : List Property) (attributes : Wire.Attributes) (labels : List LabelValue) :
    Share :=
  ⟨rowSamples metrics attributes labels, metrics.filterMap fun metric => metric.fault? attributes labels⟩

/-- What two parts of one row give in turn: nothing comes behind a fault in the same row. -/
def andThen (share later : Share) : Share :=
  if share.faults.isEmpty then ⟨share.samples ++ later.samples, later.faults⟩ else share

end Share

/-- What is asked for in turn, and what rows and answers give; it goes on in any case. -/
inductive Plan where
  | done
  | share (share : Share) (later : Plan)
  | ask (words : List String) (next : Reply → Plan)

/-- The requests of a plan on a line, the shares on the way, and the line behind it. -/
structure Itinerary where
  exchanges : List Exchange
  shares : List Share
  line : Line

namespace Itinerary

/-- One stretch after another. -/
def followedBy (first second : Itinerary) : Itinerary :=
  ⟨first.exchanges ++ second.exchanges, first.shares ++ second.shares, second.line⟩

/-- The samples of all shares. -/
def samples (itinerary : Itinerary) : List Addition := itinerary.shares.flatMap Share.samples

/-- Nothing is wrong with any share. -/
def Clean (itinerary : Itinerary) : Prop := ∀ share ∈ itinerary.shares, share.faults = []

instance (itinerary : Itinerary) : Decidable itinerary.Clean :=
  inferInstanceAs (Decidable (∀ share ∈ itinerary.shares, share.faults = []))

/-- Stretches one after another are clean exactly if each of them is. -/
theorem clean_followedBy_iff {first second : Itinerary} :
    (first.followedBy second).Clean ↔ first.Clean ∧ second.Clean :=
  List.forall_mem_append

/-- The samples of one stretch stand before those of the next. -/
theorem samples_followedBy (first second : Itinerary) :
    (first.followedBy second).samples = first.samples ++ second.samples :=
  List.flatMap_append

end Itinerary

namespace Plan

/-- Where a plan leads from a line; it ends with a request that is not answered. -/
def itinerary : Plan → Line → Itinerary
  | done, line => ⟨[], [], line⟩
  | share own later, line =>
      let rest := later.itinerary line
      { rest with shares := own :: rest.shares }
  | ask words next, line =>
      let exchange : Exchange := ⟨line, words⟩
      match exchange.answer with
      | .error _ => ⟨[exchange], [], exchange.after⟩
      | .ok reply =>
          let rest := (next reply).itinerary exchange.after
          { rest with exchanges := exchange :: rest.exchanges }

/-- All requests of the plan are answered by a complete reply without a trap. -/
def Answered (plan : Plan) (line : Line) : Prop :=
  ∀ exchange ∈ (plan.itinerary line).exchanges, exchange.Accepted

instance (plan : Plan) (line : Line) : Decidable (plan.Answered line) :=
  inferInstanceAs (Decidable (∀ exchange ∈ (plan.itinerary line).exchanges, exchange.Accepted))

/-- A plan, and another one behind it. -/
def followedBy : Plan → Plan → Plan
  | done, second => second
  | share own later, second => share own (later.followedBy second)
  | ask words next, second => ask words fun reply => (next reply).followedBy second

/-- Plans one after another. -/
def all (plans : List Plan) : Plan := plans.foldr followedBy done

/-- A share for each of some rows. -/
def shares {ι : Type} (rows : List ι) (shareOf : ι → Share) : Plan :=
  all (rows.map fun row => share (shareOf row) done)

/-- Rows take nothing from the line. -/
theorem itinerary_shares {ι : Type} (rows : List ι) (shareOf : ι → Share) (line : Line) :
    (shares rows shareOf).itinerary line = ⟨[], rows.map shareOf, line⟩ := by
  induction rows with
  | nil => rfl
  | cons row rows ih =>
    -- The share of the first row stands before the plan for the others.
    show (share (shareOf row) (shares rows shareOf)).itinerary line = _
    simp only [itinerary, ih, List.map_cons]

/-- An answered plan with another one behind it leads over the end of the first one. -/
theorem itinerary_followedBy {first second : Plan} {line : Line}
    (answered : (first.followedBy second).Answered line) :
    first.Answered line ∧ second.Answered (first.itinerary line).line ∧
      (first.followedBy second).itinerary line =
        (first.itinerary line).followedBy (second.itinerary (first.itinerary line).line) := by
  -- The induction is on the first plan, as far as its requests are answered.
  induction first generalizing line with
  | done => exact ⟨by simp [Answered, itinerary], answered, rfl⟩
  | share own later ih =>
    obtain ⟨before, behind, whole⟩ := ih answered
    refine ⟨before, behind, ?_⟩
    simp only [followedBy, itinerary, whole]
    rfl
  | ask words next ih =>
    simp only [Answered, followedBy, itinerary] at answered ⊢
    cases replied : (Exchange.mk line words).answer with
    | error fault =>
      rw [replied] at answered
      obtain ⟨reply, other⟩ := answered ⟨line, words⟩ List.mem_cons_self
      cases replied.symm.trans other
    | ok reply =>
      rw [replied] at answered
      obtain ⟨own, others⟩ := List.forall_mem_cons.mp answered
      obtain ⟨before, behind, whole⟩ := ih reply others
      refine ⟨List.forall_mem_cons.mpr ⟨own, before⟩, behind, ?_⟩
      simp only [whole]
      rfl

/-- A request that is answered leads to what the plan says for the reply. -/
theorem itinerary_ask {words : List String} {next : Reply → Plan} {line : Line}
    (answered : (ask words next).Answered line) :
    ∃ reply, (Exchange.mk line words).answer = .ok reply ∧
      (next reply).Answered (Exchange.mk line words).after ∧
      (ask words next).itinerary line =
        Itinerary.followedBy ⟨[⟨line, words⟩], [], (Exchange.mk line words).after⟩
          ((next reply).itinerary (Exchange.mk line words).after) := by
  simp only [Answered, itinerary] at answered ⊢
  cases replied : (Exchange.mk line words).answer with
  | error fault =>
    rw [replied] at answered
    -- The request itself is one of those that are answered.
    obtain ⟨reply, other⟩ := answered ⟨line, words⟩ List.mem_cons_self
    cases replied.symm.trans other
  | ok reply =>
    rw [replied] at answered
    exact ⟨reply, rfl, (List.forall_mem_cons.mp answered).2, rfl⟩

/-- What is seen of a plan are its requests. -/
theorem itinerary_events (plan : Plan) (line : Line) :
    (plan.itinerary line).line.events =
      line.events ++ (plan.itinerary line).exchanges.flatMap Exchange.sends := by
  -- Shares leave the line alone, and each request is seen before the later ones.
  induction plan generalizing line with
  | done => simp [itinerary]
  | share own later ih => exact ih line
  | ask words next ih =>
    have events := (Exchange.mk line words).after_keeps.2.2.2
    simp only [itinerary]
    cases (Exchange.mk line words).answer with
    | error fault => simpa using events
    | ok reply => simp only [ih, events, List.flatMap_cons, List.append_assoc]

end Plan

/-- A step that asks for nothing comes to a share, and fails if something is wrong with it. -/
def Gives (tells : Fault → Prop) (step : Collecting Unit) (share : Share) : Prop :=
  ∀ scrape, ∃ oddities,
    (share.faults = [] → step scrape = .ok () (scrape.gaining share.samples oddities)) ∧
      (share.faults ≠ [] →
        ∃ fault, tells fault ∧ step scrape = .error fault (scrape.gaining share.samples oddities))

namespace Gives

variable {tells : Fault → Prop} {step next : Collecting Unit} {share later : Share}

/-- What a step tells may be told with less precision. -/
theorem mono {tells' : Fault → Prop} (gives : Gives tells step share)
    (within : ∀ fault, tells fault → tells' fault) : Gives tells' step share := by
  -- The share stays the same, and the fault is told by the weaker condition.
  intro scrape
  obtain ⟨oddities, clean, faulty⟩ := gives scrape
  refine ⟨oddities, clean, fun wrong => ?_⟩
  obtain ⟨fault, told, failed⟩ := faulty wrong
  exact ⟨fault, within fault told, failed⟩

/-- Nothing is given at once. -/
theorem pure : Gives tells (pure ()) .nothing := by
  -- Neither samples nor faults come up.
  intro scrape
  refine ⟨scrape.ledger.oddities, fun _ => ?_, fun wrong => absurd rfl wrong⟩
  simp [Scrape.gaining, Share.nothing, Pure.pure, EStateM.pure]

/-- A sample is given if it has a value for each label. -/
theorem sample {addition : Addition}
    (told : ∀ fault, addition.fault? = some fault → tells (.value fault)) :
    Gives tells (emitting (emit addition)) (.ofSample addition) := by
  intro scrape
  refine ⟨scrape.ledger.oddities, ?_⟩
  unfold Share.ofSample
  cases faulty : addition.fault? with
  -- A sample that fits is added, and there is no fault.
  | none => simp [emitting, emit, faulty, Scrape.gaining]
  | some fault =>
    -- A sample that does not fit is its fault, and it is not added.
    refine ⟨fun none => absurd none (List.cons_ne_nil _ _), fun _ =>
      ⟨.value fault, told fault faulty, ?_⟩⟩
    simp [emitting, emit, faulty, Scrape.gaining, Fault.ofConversion]

/-- One metric is given what a row has for it. -/
theorem metric {metric : Property} {attributes : Wire.Attributes} {scope : Scope}
    (told : ∀ fault, tells (.value fault))
    (inRange : metric.fault? attributes scope.labels ≠ some .overflow) :
    Gives tells (emitting (metric.collect attributes scope))
      (.ofRow [metric] attributes scope.labels) := by
  intro scrape
  obtain ⟨oddities, collected⟩ := metric.collect_samples attributes scope scrape.ledger
  refine ⟨oddities, ?_⟩
  unfold Share.ofRow rowSamples
  -- Within the range, what is wrong is a rejection, which is told as it is.
  rcases wrong : metric.fault? attributes scope.labels with _ | rejected | _
  · rw [wrong] at collected
    simp [emitting, collected, wrong, Scrape.gaining]
  · rw [wrong] at collected
    refine ⟨by simp [wrong], fun _ => ⟨.value rejected, told rejected, ?_⟩⟩
    simp [emitting, collected, Scrape.gaining, Fault.ofConversion]
  · exact absurd wrong inRange

/-- Several metrics are given what a row has for them, and the faults are gathered. -/
theorem row {metrics : List Property} {attributes : Wire.Attributes} {scope : Scope}
    (inRange : ∀ metric ∈ metrics, metric.fault? attributes scope.labels ≠ some .overflow) :
    Gives IsGathered (collectMetrics metrics attributes scope)
      (.ofRow metrics attributes scope.labels) := by
  intro scrape
  obtain ⟨oddities, collected⟩ := collectMetrics_reached inRange scrape
  -- Within the range something is wrong exactly if something is rejected.
  have same : (Share.ofRow metrics attributes scope.labels).faults =
      (rowRejections metrics attributes scope.labels).map .rejected := by
    unfold Share.ofRow rowRejections
    rw [List.map_filterMap]
    refine List.filterMap_congr fun metric member => ?_
    unfold Property.rejection?
    rcases wrong : metric.fault? attributes scope.labels with _ | rejected | _
    · rfl
    · rfl
    · exact absurd wrong (inRange metric member)
  refine ⟨oddities, ?_⟩
  rw [collected, same]
  cases rowRejections metrics attributes scope.labels with
  | nil => exact ⟨fun _ => rfl, fun wrong => absurd rfl wrong⟩
  | cons fault others => exact ⟨nofun, fun _ => ⟨_, isGathered_heading _, rfl⟩⟩

/-- Steps in turn give what they give one after another, up to the first with a fault. -/
theorem bind (first : Gives tells step share) (second : Gives tells next later) :
    Gives tells (step >>= fun _ => next) (share.andThen later) := by
  intro scrape
  obtain ⟨oddities, clean, faulty⟩ := first scrape
  unfold Share.andThen
  -- The later step has its turn only if nothing is wrong with the first share.
  by_cases none : share.faults = []
  · obtain ⟨others, clean', faulty'⟩ := second (scrape.gaining share.samples oddities)
    have regained : (scrape.gaining share.samples oddities).gaining later.samples others =
        scrape.gaining (share.samples ++ later.samples) others := by
      simp [Scrape.gaining]
    rw [regained] at clean' faulty'
    refine ⟨others, ?_⟩
    simpa [none, Bind.bind, EStateM.bind, clean none] using ⟨clean', faulty'⟩
  · obtain ⟨fault, told, failed⟩ := faulty none
    refine ⟨oddities, ?_⟩
    simp [none, Bind.bind, EStateM.bind, failed, told]

end Gives

/-- The scrape behind a stretch: on its line, and with its samples. -/
def Itinerary.completing (itinerary : Itinerary) (ledger : Ledger) (oddities : List Oddity) :
    Scrape :=
  ⟨itinerary.line, ⟨ledger.additions ++ itinerary.samples, oddities⟩⟩

/-- Where a step goes on from the end of a stretch, it ends behind both of them. -/
theorem Itinerary.completing_completing (first second : Itinerary) (ledger : Ledger)
    (earlier later : List Oddity) :
    second.completing (first.completing ledger earlier).ledger later =
      (first.followedBy second).completing ledger later := by
  -- The samples of both stretches stand one behind the other.
  simp only [completing, samples_followedBy, List.append_assoc]
  rfl

/-- As long as nothing is wrong, a step goes to the end of a plan. -/
def Does (step : Collecting Unit) (plan : Plan) : Prop :=
  ∀ scrape, plan.Answered scrape.line → (plan.itinerary scrape.line).Clean →
    ∃ oddities, step scrape =
      .ok () ((plan.itinerary scrape.line).completing scrape.ledger oddities)

/-- A step goes to the end of a plan in any case, and fails there if something is wrong. -/
structure Fulfils (tells : Fault → Prop) (step : Collecting Unit) (plan : Plan) : Prop where
  does : Does step plan
  fails : ∀ scrape, plan.Answered scrape.line → ¬ (plan.itinerary scrape.line).Clean →
    ∃ fault oddities, tells fault ∧ step scrape =
      .error fault ((plan.itinerary scrape.line).completing scrape.ledger oddities)

section Steps

variable {tells : Fault → Prop} {step next : Collecting Unit} {first second : Plan} {ι : Type}

/-- A step that comes to a share goes to the end of the plan with this share. -/
theorem Gives.fulfils {share : Share} (gives : Gives tells step share) :
    Fulfils tells step (.share share .done) := by
  -- The plan has one share, so that its faults are those of the whole.
  have clean : ∀ line, ((Plan.share share .done).itinerary line).Clean ↔ share.faults = [] := by
    simp [Plan.itinerary, Itinerary.Clean]
  -- The samples of the share are those of the whole.
  have behind : ∀ (scrape : Scrape) oddities, scrape.gaining share.samples oddities =
      ((Plan.share share .done).itinerary scrape.line).completing scrape.ledger oddities := by
    simp [Scrape.gaining, Plan.itinerary, Itinerary.completing, Itinerary.samples]
  constructor
  · intro scrape _ none
    obtain ⟨oddities, went, -⟩ := gives scrape
    exact ⟨oddities, by rw [went ((clean _).mp none), behind]⟩
  · intro scrape _ wrong
    obtain ⟨oddities, -, went⟩ := gives scrape
    obtain ⟨fault, told, failed⟩ := went (mt (clean _).mpr wrong)
    exact ⟨fault, oddities, told, by rw [failed, behind]⟩

/-- Where nothing is done, nothing is planned. -/
theorem Does.pure : Does (pure ()) .done := by
  -- The scrape is left as it is.
  refine fun scrape _ _ => ⟨scrape.ledger.oddities, ?_⟩
  simp [Plan.itinerary, Itinerary.completing, Itinerary.samples, Pure.pure, EStateM.pure]

/-- One sample is a share of its own. -/
theorem Does.sample (addition : Addition) :
    Does (emitting (emit addition)) (.share (.ofSample addition) .done) := by
  -- What is told of the fault does not matter here.
  have gives : Gives (fun _ => True) (emitting (emit addition)) (.ofSample addition) :=
    .sample fun _ _ => trivial
  exact gives.fulfils.does

/-- What a row has for one metric is a share of its own. -/
theorem Does.metric {metric : Property} {attributes : Wire.Attributes} {scope : Scope}
    (inRange : metric.fault? attributes scope.labels ≠ some .overflow) :
    Does (emitting (metric.collect attributes scope))
      (.share (.ofRow [metric] attributes scope.labels) .done) := by
  -- What is told of the faults does not matter here.
  have gives : Gives (fun _ => True) (emitting (metric.collect attributes scope))
      (.ofRow [metric] attributes scope.labels) := .metric (fun _ => trivial) inRange
  exact gives.fulfils.does

/-- Where nothing is done, nothing goes wrong. -/
theorem Fulfils.pure : Fulfils tells (pure ()) .done where
  does := .pure
  -- There is nothing that could be wrong.
  fails _ _ wrong := absurd (fun _ none => absurd none List.not_mem_nil) wrong

/-- What is done under a condition is planned under it. -/
theorem Fulfils.ite {condition : Prop} [Decidable condition] (met : Fulfils tells step first)
    (missed : Fulfils tells next second) :
    Fulfils tells (if condition then step else next) (if condition then first else second) := by
  -- The condition is the same on both sides.
  split
  · exact met
  · exact missed

/-- A query of an answered plan leads on with its reply, where nothing is wrong yet. -/
theorem answered_ask {words : List String} {plans : Reply → Plan} {scrape : Scrape}
    (after : Reply → Collecting Unit) (answered : (Plan.ask words plans).Answered scrape.line) :
    let line := (Exchange.mk scrape.line words).after
    let whole := (Plan.ask words plans).itinerary scrape.line
    ∃ reply, (Exchange.mk scrape.line words).answer = .ok reply ∧ (plans reply).Answered line ∧
      (query words >>= after) scrape = after reply ⟨line, scrape.ledger⟩ ∧
      (whole.Clean ↔ ((plans reply).itinerary line).Clean) ∧
      ∀ oddities, whole.completing scrape.ledger oddities =
        ((plans reply).itinerary line).completing scrape.ledger oddities := by
  intro line whole
  obtain ⟨reply, replied, later, same⟩ := Plan.itinerary_ask answered
  refine ⟨reply, replied, later, ?_, ?_, fun oddities => ?_⟩
  · -- The query gives the reply and leaves the ledger alone.
    simp only [Bind.bind, EStateM.bind, query, Session.run_eq, replied]
    rfl
  · -- Asking brings nothing that could be wrong.
    rw [show whole = _ from same, Itinerary.clean_followedBy_iff]
    exact and_iff_right fun _ none => absurd none List.not_mem_nil
  · rw [show whole = _ from same]
    rfl

/-- What is done with the reply to a query is planned for each reply. -/
theorem Does.ask {words : List String} {after : Reply → Collecting Unit} {plans : Reply → Plan}
    (each : ∀ reply, Does (after reply) (plans reply)) :
    Does (query words >>= after) (.ask words plans) := by
  -- The line goes on behind the answer, where the step for the reply takes over.
  intro scrape answered clean
  obtain ⟨reply, -, later, led, cleanToo, same⟩ := answered_ask after answered
  obtain ⟨oddities, went⟩ :=
    each reply ⟨(Exchange.mk scrape.line words).after, scrape.ledger⟩ later (cleanToo.mp clean)
  exact ⟨oddities, by rw [led, went, same]⟩

/-- What is done in any case with the reply to a query is planned for each reply. -/
theorem Fulfils.ask {words : List String} {after : Reply → Collecting Unit} {plans : Reply → Plan}
    (each : ∀ reply, Fulfils tells (after reply) (plans reply)) :
    Fulfils tells (query words >>= after) (.ask words plans) where
  does := .ask fun reply => (each reply).does
  fails := by
    intro scrape answered wrong
    -- What is wrong comes from the step for the reply.
    obtain ⟨reply, -, later, led, cleanToo, same⟩ := answered_ask after answered
    obtain ⟨fault, oddities, told, failed⟩ := (each reply).fails
      ⟨(Exchange.mk scrape.line words).after, scrape.ledger⟩ later (mt cleanToo.mpr wrong)
    exact ⟨fault, oddities, told, by rw [led, failed, same]⟩

/-- Steps in turn go to the end of their plans as long as nothing is wrong. -/
theorem Does.bind (head : Does step first) (tail : Does next second) :
    Does (step >>= fun _ => next) (first.followedBy second) := by
  intro scrape answered clean
  obtain ⟨before, behind, whole⟩ := Plan.itinerary_followedBy answered
  rw [whole, Itinerary.clean_followedBy_iff] at clean
  obtain ⟨earlier, went⟩ := head scrape before clean.1
  -- The second step starts on the line behind the first plan.
  obtain ⟨later, wentOn⟩ := tail
    ((first.itinerary scrape.line).completing scrape.ledger earlier) behind clean.2
  refine ⟨later, ?_⟩
  simp only [Bind.bind, EStateM.bind, went, wentOn]
  rw [whole, ← Itinerary.completing_completing _ _ _ earlier]
  rfl

/-- A plain loop goes to the end of its plans as long as nothing is wrong. -/
theorem Does.forM {perform : ι → Collecting Unit} {planOf : ι → Plan} {items : List ι}
    (each : ∀ item ∈ items, Does (perform item) (planOf item)) :
    Does (items.forM perform) (.all (items.map planOf)) := by
  -- The induction is on the items: the first one leads to the others as nothing is wrong with it.
  induction items with
  | nil => exact .pure
  | cons item items ih =>
    obtain ⟨own, others⟩ := List.forall_mem_cons.mp each
    exact own.bind (ih others)

private theorem gather_planned {perform : ι → Collecting Unit} {planOf : ι → Plan} {items : List ι}
    (each : ∀ item ∈ items,
      Fulfils (fun fault => fault.isOfRow = true) (perform item) (planOf item))
    (scrape : Scrape) (answered : (Plan.all (items.map planOf)).Answered scrape.line) :
    let itinerary := (Plan.all (items.map planOf)).itinerary scrape.line
    ∃ faults oddities, (faults = [] ↔ itinerary.Clean) ∧
      gather Fault.isOfRow perform items scrape =
        .ok faults (itinerary.completing scrape.ledger oddities) := by
  -- Each item is done or costs itself only, so that the others have their turns in any case.
  induction items generalizing scrape with
  | nil =>
    refine ⟨[], scrape.ledger.oddities, iff_of_true rfl fun _ none => absurd none List.not_mem_nil, ?_⟩
    simp [gather, Plan.all, Plan.itinerary, Itinerary.completing, Itinerary.samples, Pure.pure,
      EStateM.pure]
  | cons item items ih =>
    obtain ⟨own, others⟩ := List.forall_mem_cons.mp each
    change ((planOf item).followedBy (.all (items.map planOf))).Answered scrape.line at answered
    obtain ⟨before, behind, whole⟩ := Plan.itinerary_followedBy answered
    have split : (Plan.all ((item :: items).map planOf)).itinerary scrape.line =
        ((planOf item).itinerary scrape.line).followedBy
          ((Plan.all (items.map planOf)).itinerary ((planOf item).itinerary scrape.line).line) :=
      whole
    simp only [split, Itinerary.clean_followedBy_iff]
    by_cases clean : ((planOf item).itinerary scrape.line).Clean
    · obtain ⟨earlier, went⟩ := own.does scrape before clean
      obtain ⟨faults, later, none, gathered⟩ := ih others
        (((planOf item).itinerary scrape.line).completing scrape.ledger earlier) behind
      refine ⟨faults, later, none.trans (and_iff_right clean).symm, ?_⟩
      simp only [gather, went, gathered]
      rw [← Itinerary.completing_completing _ _ _ earlier]
      rfl
    · obtain ⟨fault, earlier, ofRow, failed⟩ := own.fails scrape before clean
      obtain ⟨faults, later, -, gathered⟩ := ih others
        (((planOf item).itinerary scrape.line).completing scrape.ledger earlier) behind
      refine ⟨fault :: faults, later, by simp [clean], ?_⟩
      simp only [gather, failed, ofRow, if_true, gathered]
      rw [← Itinerary.completing_completing _ _ _ earlier]
      rfl

/-- A loop that gathers the faults of its items goes to the end of all their plans in any case. -/
theorem Fulfils.collectEach {perform : ι → Collecting Unit} {planOf : ι → Plan} {items : List ι}
    (each : ∀ item ∈ items,
      Fulfils (fun fault => fault.isOfRow = true) (perform item) (planOf item)) :
    Fulfils IsGathered (collectEach items perform) (.all (items.map planOf)) where
  does := by
    intro scrape answered clean
    obtain ⟨faults, oddities, none, gathered⟩ := gather_planned each scrape answered
    refine ⟨oddities, ?_⟩
    simp only [Collector.collectEach, Bind.bind, EStateM.bind, gathered, none.mpr clean]
    rfl
  fails := by
    intro scrape answered wrong
    obtain ⟨faults, oddities, none, gathered⟩ := gather_planned each scrape answered
    -- Something is wrong, so at least one fault was gathered.
    obtain ⟨fault, others, rfl⟩ := List.exists_cons_of_ne_nil (mt none.mp wrong)
    refine ⟨_, oddities, isGathered_heading (fault :: others), ?_⟩
    simp only [Collector.collectEach, Bind.bind, EStateM.bind, gathered]
    rfl

/-- What a step tells may be told with less precision. -/
theorem Fulfils.mono {tells' : Fault → Prop} (fulfils : Fulfils tells step first)
    (within : ∀ fault, tells fault → tells' fault) : Fulfils tells' step first where
  does := fulfils.does
  fails scrape answered wrong := by
    -- The fault stays the same.
    obtain ⟨fault, oddities, told, failed⟩ := fulfils.fails scrape answered wrong
    exact ⟨fault, oddities, within fault told, failed⟩

end Steps

end RouterMetrics.Collector
