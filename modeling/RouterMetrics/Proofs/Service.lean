import RouterMetrics.Proofs.Fleet.Round
import RouterMetrics.Proofs.Lists
import RouterMetrics.Service

/-!
When the service answers with a page of metrics.

Main statement: it does so, with every sample of every device, exactly if no device has a wireless
interface that tells its state without a name.
-/

namespace RouterMetrics

open RouterMetrics.Fleet
open RouterMetrics.Metric (Valued)
open RouterMetrics.Session (Network)

namespace Fleet

/-- What is assigned under a name is a registered collector, which the name in small letters names. -/
theorem assignmentOf_ok {name : String} {assignment : Assignment}
    (found : assignmentOf name = .ok assignment) :
    assignment.name = name ∧ assignment.collector ∈ Collector.all ∧
      assignment.collector.name = Text.lowercase name := by
  unfold assignmentOf at found
  cases search : Collector.find? name with
  | none => simp [search] at found
  | some collector =>
    simp only [search, Except.ok.injEq] at found
    -- What is found by its name was looked for among the registered ones.
    rw [← found]
    exact ⟨rfl, List.mem_of_find?_eq_some search, by simpa using List.find?_some search⟩

/-- A member that is made of a configured device has the collectors that are enabled for it. -/
theorem memberOf_ok {config : Config} {device : Config.Device} {member : Member}
    (made : memberOf config device = .ok member) :
    ∃ (features : Config.Features) (names : List String) (assignments : List Assignment),
      config.featuresOf device.name = .ok features ∧ features.names = .ok names ∧
        names.mapM assignmentOf = .ok assignments ∧ member = .ofDevice device assignments := by
  obtain ⟨names, named, made⟩ := ok_of_bind made
  obtain ⟨features, found, shaped⟩ := ok_of_bind (ok_of_mapError named)
  -- Every assignment is made from the name of an enabled collector.
  obtain ⟨assignments, assigned, made⟩ := ok_of_bind made
  cases made
  exact ⟨features, names, assignments, found, ok_of_mapError shaped, assigned, rfl⟩

/-- A member that is made of a configured device has registered collectors only. -/
theorem memberOf_registered {config : Config} {device : Config.Device} {member : Member}
    (made : memberOf config device = .ok member) :
    ∀ assignment ∈ member.assignments, assignment.collector ∈ Collector.all := by
  -- A collector is assigned when it is found in the registry.
  obtain ⟨features, names, assignments, -, -, assigned, rfl⟩ := memberOf_ok made
  intro assignment enabled
  obtain ⟨name, -, found⟩ := exists_of_mem_mapM assigned enabled
  exact (assignmentOf_ok found).2.1

/-- The members of a configured fleet are made of the devices, in their order. -/
theorem ofConfig_members {config : Config} {fleet : Fleet}
    (configured : ofConfig config = .ok fleet) :
    List.Forall₂ (fun device member => memberOf config device = .ok member)
      config.devices fleet.members := by
  unfold ofConfig at configured
  cases mapped : config.devices.mapM (memberOf config) with
  -- Without all members there is no fleet.
  | error fault => simp [mapped, Except.map] at configured
  | ok members =>
    simp only [mapped, Except.map, Except.ok.injEq] at configured
    subst configured
    exact forall₂_of_mapM mapped

/-- The fleet of a configuration has registered collectors only. -/
theorem ofConfig_registered {config : Config} {fleet : Fleet}
    (configured : ofConfig config = .ok fleet) : fleet.Registered := by
  -- Each member is made of a device.
  intro member inside
  obtain ⟨device, -, made⟩ := exists_of_forall₂ (ofConfig_members configured) inside
  exact memberOf_registered made

/-- Closing leaves the fleet with its collectors. -/
theorem close_registered {fleet : Fleet} (registered : fleet.Registered) (network : Network) :
    (fleet.close network).1.Registered := by
  -- The invariant is that all members that are closed so far have registered collectors.
  unfold close
  have start : Registered ⟨[]⟩ := fun _ none => absurd none List.not_mem_nil
  refine List.foldlRecOn (motive := fun closed : Fleet × Network => closed.1.Registered)
    fleet.members _ start ?_
  rintro ⟨closed, network⟩ done member inside other known
  rcases List.mem_append.mp known with earlier | final
  · exact done other earlier
  · rw [List.mem_singleton.mp final, (Visit.drop_sameMember _).assignments]
    exact registered member inside

end Fleet

namespace Service

/-- The service after the answer to a request, and the answer. -/
def respond (service : Service) (seconds : Float) (request : Web.Request) :
    Except Web.Fault Web.Response × Service := (answer seconds request).run service

/-- The services that come about: made of a configuration, asked and closed any number of times. -/
inductive Reached : Service → Prop
  | made {config : Config} {fleet : Fleet} (configured : Fleet.ofConfig config = .ok fleet)
      (network : Network) (journal : List Entry) (metricsPath : String) :
      Reached ⟨fleet, network, journal, metricsPath⟩
  | asked {service : Service} (before : Reached service) (seconds : Float) (request : Web.Request) :
      Reached (service.respond seconds request).2
  | closed {service : Service} (before : Reached service) : Reached (close.run service).2

/-- What is answered to a request for metrics, and how it leaves the fleet. -/
theorem respond_metrics {service : Service} (seconds : Float) {request : Web.Request}
    (asked : Web.route service.metricsPath request = .ok .metrics) :
    let round := service.fleet.collect seconds service.network
    (service.respond seconds request).1 =
        (match Exposition.page round.sink.families with
          | .ok page => .ok (.page Web.metricsContent page)
          | .error family => Web.failureFor (Exposition.faultMessage family)) ∧
      (service.respond seconds request).2.fleet = round.fleet := by
  dsimp only
  simp only [respond, answer, Web.answer, metrics, report, StateT.run, bind, StateT.bind, get,
    getThe, MonadStateOf.get, StateT.get, pure, StateT.pure, set, StateT.set, asked]
  -- The fleet is left as the round leaves it, whether there is a page or not.
  cases shown : Exposition.page (service.fleet.collect seconds service.network).sink.families with
  | ok page => exact ⟨rfl, rfl⟩
  | error family =>
    simp only [Except.mapError]
    generalize Exposition.faultMessage family = reason
    exact ⟨rfl, rfl⟩

/-- An answer leaves the fleet alone, or it is about a round through the fleet. -/
theorem respond_fleet (service : Service) (seconds : Float) (request : Web.Request) :
    (service.respond seconds request).2.fleet = service.fleet ∨
      (service.respond seconds request).2.fleet =
        (service.fleet.collect seconds service.network).fleet := by
  -- Only a request for metrics has to do with the fleet.
  have other : ∀ answered : Except Web.Fault Web.Route, answered ≠ .ok .metrics →
      Web.route service.metricsPath request = answered →
        (service.respond seconds request).2.fleet = service.fleet := by
    intro answered aside asked
    simp only [respond, answer, Web.answer, StateT.run, bind, StateT.bind, get, getThe,
      MonadStateOf.get, StateT.get, pure, asked]
    split <;> first | rfl | contradiction
  by_cases asked : Web.route service.metricsPath request = .ok .metrics
  · exact .inr (respond_metrics seconds asked).2
  · exact .inl (other _ asked rfl)

/-- The collectors of every service that comes about are registered. -/
theorem Reached.registered {service : Service} (reached : Reached service) :
    service.fleet.Registered := by
  -- The induction is on the requests and closings by which the service came about.
  induction reached with
  | made configured network journal metricsPath => exact ofConfig_registered configured
  | asked before seconds request ih =>
    rename_i service
    rcases respond_fleet service seconds request with same | round
    · rw [same]
      exact ih
    · rw [round]
      exact collect_registered ih seconds service.network
  | closed before ih => exact close_registered ih _

private theorem failureFor_ne_page (reason content body : String) :
    Web.failureFor reason ≠ .ok (.page content body) := by
  -- A failure is not answered with a page.
  unfold Web.failureFor
  split <;> simp

/--
A request for metrics is answered with a page unless a device has a nameless interface.

The page has every sample of every device.
It is not made where an interface without a name tells its state to the collector of wireless
interfaces, as the sample of this state then has no text for one of its labels.
-/
theorem metrics_served_iff {service : Service} (reached : service.Reached) (seconds : Float)
    {request : Web.Request} (asked : Web.route service.metricsPath request = .ok .metrics) :
    let visits := Fleet.visits service.network service.fleet.members
    let named := ∀ visit ∈ visits, ∀ turn ∈ visitTurns visit, ¬ AnonymousTurn turn
    let sink := (service.fleet.collect seconds service.network).sink
    visits.map Visit.member = service.fleet.members ∧
      ((∀ visit ∈ visits, ∀ addition ∈ visit.additions seconds, Valued addition) ↔ named) ∧
      ((∃ page, (service.respond seconds request).1 = .ok (.page Web.metricsContent page) ∧
          ∀ visit ∈ visits, ∀ addition ∈ visit.additions seconds,
            Exposition.Shows sink page addition) ↔ named) ∧
      (¬ named → ∃ family, (service.respond seconds request).1 =
        Web.failureFor (Exposition.faultMessage family)) := by
  intro visits named sink
  have registered := reached.registered
  have answered : (service.respond seconds request).1 =
      (match Exposition.page sink.families with
        | .ok page => .ok (.page Web.metricsContent page)
        | .error family => Web.failureFor (Exposition.faultMessage family)) :=
    (respond_metrics seconds asked).1
  have added : (service.fleet.collect seconds service.network).additions =
      visits.flatMap (Visit.additions seconds) :=
    (collect_visits seconds service.network service.fleet).2
  have whole : (∃ text, Exposition.page sink.families = .ok text) ↔ named :=
    collect_page_iff registered seconds service.network
  -- The page, the samples and the turns are put beside each other.
  refine ⟨visits_members _ _, ?_, ?_, ?_⟩
  · rw [← List.forall_mem_flatMap, ← added]
    exact collect_valued_iff registered seconds service.network
  · rw [← whole]
    constructor
    · rintro ⟨page, given, -⟩
      rw [answered] at given
      -- An answer with a page must come from the page of the sink.
      cases made : Exposition.page sink.families with
      | ok text => exact ⟨text, rfl⟩
      | error family =>
        rw [made] at given
        exact absurd given (failureFor_ne_page _ _ _)
    · rintro ⟨text, made⟩
      refine ⟨text, by rw [answered, made], ?_⟩
      rw [← List.forall_mem_flatMap, ← added]
      exact Exposition.shows_of_page made
  · intro anonymous
    rw [← whole] at anonymous
    cases made : Exposition.page sink.families with
    | ok text => exact absurd ⟨text, made⟩ anonymous
    | error family => exact ⟨family, by rw [answered, made]⟩

/-- A service for one device, which has an interface without a name and tells its state. -/
def nameless : Service :=
  let device : Config.Device := { name := "gw1", address := "10.0.0.1" }
  let done : Session.Reaction := .answer [5, 33, 100, 111, 110, 101, 0] none
  let row : Session.Reaction := .answer [3, 33, 114, 101, 0, 5, 33, 100, 111, 110, 101, 0] none
  ⟨⟨[.ofDevice device [⟨"wlanif", Collector.WirelessInterface.collector⟩]]⟩,
    .ofAttempts (.ofList [(⟨"10.0.0.1", 8728⟩, [.opens none [done, row, row]])]), [], "/metrics"⟩

/-- The service comes about, but nobody gets a page of metrics from it. -/
theorem nameless_interface_takes_page :
    let request : Web.Request := ⟨"GET", "/metrics"⟩
    nameless.Reached ∧ Web.route nameless.metricsPath request = .ok .metrics ∧
      (¬ ∀ visit ∈ visits nameless.network nameless.fleet.members, ∀ turn ∈ visitTurns visit,
        ¬ AnonymousTurn turn) ∧
      ¬ ∃ page, (nameless.respond 0.5 request).1 = .ok (.page Web.metricsContent page) := by
  intro request
  have reached : nameless.Reached := by
    -- It is the service of a configuration with one device and one collector.
    let config : Config :=
      ⟨[{ name := "gw1", address := "10.0.0.1" }], .ofList [(.text "wlanif", .bool true)], .empty⟩
    exact Reached.made (show Fleet.ofConfig config = .ok _ from rfl) _ _ _
  have asked : Web.route nameless.metricsPath request = .ok .metrics := by decide +kernel
  obtain ⟨-, valued, -, failed⟩ := metrics_served_iff reached 0.5 asked
  -- The state of the interface is told in a sample that has no text for the interface.
  have told : ((visits nameless.network nameless.fleet.members).all fun visit =>
      (visit.additions 0.5).all fun addition => addition.labels.all Option.isSome) = false := by
    decide +kernel
  have anonymous : ¬ ∀ visit ∈ visits nameless.network nameless.fleet.members,
      ∀ turn ∈ visitTurns visit, ¬ AnonymousTurn turn := by
    intro named
    have whole := valued.mpr named
    simp only [Metric.Valued, ← List.all_eq_true] at whole
    rw [whole] at told
    cases told
  obtain ⟨family, answered⟩ := failed anonymous
  refine ⟨reached, asked, anonymous, ?_⟩
  rintro ⟨page, given⟩
  rw [answered] at given
  exact failureFor_ne_page _ _ _ given

end Service

end RouterMetrics
