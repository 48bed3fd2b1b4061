import RouterMetrics.Proofs.Collector.Script

/-! Conduct: what scripts may ask, add and end with, whatever they are answered. -/

namespace RouterMetrics.Collector

open RouterMetrics.Metric
open RouterMetrics.Session (Exchange Line Reply Talk talk_single)

/-- The requests, the samples and the faults of its own that a collector may come up with. -/
structure Conduct where
  asks : List String → Prop
  adds : Addition → Prop
  fails : Fault → Prop

namespace Conduct

/-- Every conduct of one kind is also one of another kind. -/
structure Within (strict lax : Conduct) : Prop where
  asks : ∀ words, strict.asks words → lax.asks words
  adds : ∀ addition, strict.adds addition → lax.adds addition
  fails : ∀ fault, strict.fails fault → lax.fails fault

/-- The conduct of a script that may also end with a fault that it has met. -/
def meeting (conduct : Conduct) (fault : Session.Fault) : Conduct :=
  { conduct with fails := fun other => conduct.fails other ∨ other = .session fault }

/-- The conduct of a step for one row, whose faults are gathered. -/
def ofRow (conduct : Conduct) : Conduct :=
  { conduct with fails := fun fault => fault.isOfRow = true ∨ conduct.fails fault }

/-- A fault that was met widens a conduct. -/
theorem within_meeting (conduct : Conduct) (fault : Session.Fault) :
    conduct.Within (conduct.meeting fault) :=
  ⟨fun _ allowed => allowed, fun _ allowed => allowed, fun _ allowed => .inl allowed⟩

/-- Meeting a fault keeps one conduct within another. -/
theorem Within.meeting {strict lax : Conduct} (within : strict.Within lax)
    (fault : Session.Fault) : (strict.meeting fault).Within (lax.meeting fault) :=
  ⟨within.asks, within.adds, fun other allowed => allowed.imp_left (within.fails other)⟩

end Conduct

/-- A session's fault costs one row only if it is about a value. -/
theorem isOfRow_session (fault : Session.Fault) :
    (Fault.session fault).isOfRow = fault.isOfValue := by
  unfold Session.Fault.isOfValue
  -- The session's faults about a value are the same ones in both lists.
  split
  · rfl
  · rfl
  · rfl
  · unfold Fault.isOfRow Fault.isValueFault
    split <;> simp_all

namespace Script

variable {α β ι : Type}

/--
A script keeps to a conduct, whatever it is answered.

Only a fault that is about a value is something it may go on after.
-/
def Obeys : Script α → Conduct → Prop
  | finish (.ok _), _ => True
  | finish (.error fault), conduct => conduct.fails fault
  | add added next, conduct =>
      (∀ addition ∈ added.additions, conduct.adds addition) ∧ next.Obeys conduct
  | ask words next, conduct =>
      conduct.asks words ∧ (∀ reply, (next (.ok reply)).Obeys conduct) ∧
        ∀ fault, if fault.isOfValue then (next (.error fault)).Obeys (conduct.meeting fault)
          else next (.error fault) = finish (.error (.session fault))

/-- A script that keeps to a conduct keeps to a wider one. -/
theorem Obeys.mono {script : Script α} {strict lax : Conduct} (obeys : script.Obeys strict)
    (within : strict.Within lax) : script.Obeys lax := by
  induction script generalizing strict lax with
  | finish outcome =>
    cases outcome with
    | ok result => trivial
    | error fault => exact within.fails fault obeys
  | add added next ih =>
    exact ⟨fun addition member => within.adds addition (obeys.1 addition member),
      ih obeys.2 within⟩
  | ask words next ih =>
    obtain ⟨asks, replied, failed⟩ := obeys
    refine ⟨within.asks words asks, fun reply => ih _ (replied reply) within, fun fault => ?_⟩
    have conduct := failed fault
    -- After a fault about a value the script goes on, and it may end with this fault, too.
    split
    · rename_i ofValue
      rw [if_pos ofValue] at conduct
      exact ih _ conduct (within.meeting fault)
    · rename_i ofValue
      rwa [if_neg ofValue] at conduct

/-- Scripts in turn keep to the conduct to which both keep. -/
theorem Obeys.bind {script : Script α} {next : α → Script β} {conduct : Conduct}
    (head : script.Obeys conduct) (tail : ∀ result, (next result).Obeys conduct) :
    (script.bind next).Obeys conduct := by
  induction script generalizing conduct with
  | finish outcome =>
    cases outcome with
    | ok result => exact tail result
    | error fault => exact head
  | add added later ih => exact ⟨head.1, ih head.2 tail⟩
  | ask words later ih =>
    obtain ⟨asks, replied, failed⟩ := head
    refine ⟨asks, fun reply => ih _ (replied reply) tail, fun fault => ?_⟩
    have conduct := failed fault
    split
    · rename_i ofValue
      rw [if_pos ofValue] at conduct
      -- The later script may end with the fault that was met, although it does not need to.
      exact ih _ conduct fun result => (tail result).mono (Conduct.within_meeting _ fault)
    · rename_i ofValue
      rw [if_neg ofValue] at conduct
      -- Any other fault is the end of both.
      simp only [conduct, Script.bind]

/-- A query keeps to every conduct that allows its words. -/
theorem obeys_query {words : List String} {conduct : Conduct} (asks : conduct.asks words) :
    (query words).Obeys conduct := by
  refine ⟨asks, fun reply => trivial, fun fault => ?_⟩
  -- A query goes on after no fault.
  split
  · exact .inr rfl
  · rfl

/-- A step that only writes keeps to a conduct that allows what it writes. -/
theorem obeys_emitting {step : Emitting α} {conduct : Conduct} {adds : Addition → Prop}
    {fails : ConversionFault → Prop} (writes : Writes adds fails step)
    (addsToo : ∀ addition, adds addition → conduct.adds addition)
    (failsToo : ∀ fault, fails fault → conduct.fails (.ofConversion fault)) :
    (emitting step).Obeys conduct := by
  have added := writes.adds
  have failed := writes.fails
  unfold emitting
  cases ended : step .empty with
  -- What is written is allowed, and so is the fault that may come behind it.
  | ok result more =>
    rw [ended] at added
    exact ⟨fun addition member => addsToo addition (added addition member), trivial⟩
  | error fault more =>
    rw [ended] at added
    exact ⟨fun addition member => addsToo addition (added addition member),
      failsToo fault (failed fault more ended)⟩

/-- A rescued script ends with no fault that costs one row only, unless it has met it. -/
theorem obeys_rescue {script : Script Unit} {conduct : Conduct} (obeys : script.Obeys conduct.ofRow) :
    script.rescue.Obeys conduct := by
  induction script generalizing conduct with
  | finish outcome =>
    cases outcome with
    | ok result => trivial
    | error fault =>
      unfold rescue
      -- A fault that costs one row only is a result now, and the others were allowed before.
      split
      · trivial
      · rename_i notOfRow
        exact obeys.resolve_left notOfRow
  | add added later ih => exact ⟨obeys.1, ih obeys.2⟩
  | ask words later ih =>
    obtain ⟨asks, replied, failed⟩ := obeys
    refine ⟨asks, fun reply => ih _ (replied reply), fun fault => ?_⟩
    have step := failed fault
    split
    · rename_i ofValue
      rw [if_pos ofValue] at step
      -- A fault that was met before the rescue has been met after it.
      refine ih _ (step.mono ⟨fun _ allowed => allowed, fun _ allowed => allowed, ?_⟩)
      exact fun other allowed => or_assoc.mp allowed
    · rename_i ofValue
      rw [if_neg ofValue] at step
      -- A fault that is about no value costs more than one row.
      have notOfRow : ¬ (Fault.session fault).isOfRow = true := by rwa [isOfRow_session]
      simp only [step, rescue, if_neg notOfRow]

/-- Scripts for all items keep to a conduct that allows them to fail together. -/
theorem obeys_collectEach {items : List ι} {step : ι → Script Unit} {conduct : Conduct}
    (gathers : ∀ causes, conduct.fails (.gathered heading causes))
    (each : ∀ item ∈ items, (step item).Obeys conduct.ofRow) :
    (collectEach items step).Obeys conduct := by
  -- Gathering ends with no fault of a row; only the end gathers them into one.
  have gathered : (gather step items).Obeys conduct := by
    induction items with
    | nil => trivial
    | cons item items ih =>
      exact (obeys_rescue (each item List.mem_cons_self)).bind fun _ =>
        (ih fun other member => each other (List.mem_cons_of_mem item member)).bind
          fun _ => trivial
  refine gathered.bind fun faults => ?_
  split
  · trivial
  · exact gathers faults

section Courses

variable {script : Script α} {conduct : Conduct} {line : Line}

/-- All requests of a course are such as the conduct allows. -/
theorem Obeys.asks (obeys : script.Obeys conduct) :
    ∀ exchange ∈ (script.course line).exchanges, conduct.asks exchange.words := by
  induction script generalizing conduct line with
  | finish outcome => exact fun exchange member => absurd member List.not_mem_nil
  | add added next ih => exact ih obeys.2
  | ask words next ih =>
    obtain ⟨asks, replied, failed⟩ := obeys
    intro exchange member
    rcases List.mem_cons.mp member with rfl | later
    · exact asks
    · cases answered : (Exchange.mk line words).answer with
      | ok reply =>
        rw [answered] at later
        exact ih _ (replied reply) exchange later
      | error fault =>
        rw [answered] at later
        have step := failed fault
        split at step
        · exact ih _ step exchange later
        · -- Without an answer to go on with, nothing more is asked.
          rw [step] at later
          exact absurd later List.not_mem_nil

/-- All samples of a course are such as the conduct allows. -/
theorem Obeys.adds (obeys : script.Obeys conduct) :
    ∀ addition ∈ (script.course line).added.additions, conduct.adds addition := by
  induction script generalizing conduct line with
  | finish outcome => exact fun addition member => absurd member List.not_mem_nil
  | add added next ih =>
    intro addition member
    rcases List.mem_append.mp member with first | later
    · exact obeys.1 addition first
    · exact ih obeys.2 addition later
  -- What is added behind a request is added by the rest of the script.
  | ask words next ih =>
    obtain ⟨-, replied, failed⟩ := obeys
    intro addition member
    change addition ∈ ((next (Exchange.mk line words).answer).course _).added.additions at member
    cases answered : (Exchange.mk line words).answer with
    | ok reply =>
      rw [answered] at member
      exact ih _ (replied reply) addition member
    | error fault =>
      rw [answered] at member
      have step := failed fault
      split at step
      · exact ih _ step addition member
      · rw [step] at member
        exact absurd member List.not_mem_nil

/-- A course ends with a fault that the conduct allows or with one that it has met. -/
theorem Obeys.fails (obeys : script.Obeys conduct) {fault : Fault}
    (failed : (script.course line).outcome = .error fault) :
    conduct.fails fault ∨ ∃ exchange ∈ (script.course line).exchanges, ∃ met,
      exchange.answer = .error met ∧ fault = .session met := by
  induction script generalizing conduct line with
  | finish outcome =>
    have outcome_eq : outcome = .error fault := failed
    subst outcome_eq
    exact .inl obeys
  | add added next ih => exact ih obeys.2 failed
  | ask words next ih =>
    obtain ⟨-, replied, unanswered⟩ := obeys
    change ((next (Exchange.mk line words).answer).course _).outcome = .error fault at failed
    -- What was met later was met in this course.
    have later : ∀ {answer}, (Exchange.mk line words).answer = answer →
        (∃ exchange ∈ ((next answer).course (Exchange.mk line words).after).exchanges, ∃ met,
          exchange.answer = .error met ∧ fault = .session met) →
        ∃ exchange ∈ ((ask words next).course line).exchanges, ∃ met,
          exchange.answer = .error met ∧ fault = .session met := by
      rintro _ rfl ⟨exchange, member, met⟩
      exact ⟨exchange, List.mem_cons_of_mem _ member, met⟩
    cases answered : (Exchange.mk line words).answer with
    | ok reply =>
      rw [answered] at failed
      exact (ih _ (replied reply) failed).imp_right (later answered)
    | error met =>
      rw [answered] at failed
      have here : ∃ exchange ∈ ((ask words next).course line).exchanges, ∃ other,
          exchange.answer = .error other ∧ Fault.session met = .session other :=
        ⟨⟨line, words⟩, List.mem_cons_self, met, answered, rfl⟩
      have step := unanswered met
      -- The fault of this request is met again at the end, or the script has gone on after it.
      split at step
      · rcases ih _ step failed with (allowed | rfl) | found
        · exact .inl allowed
        · exact .inr here
        · exact .inr (later answered found)
      · rw [step] at failed
        cases failed
        exact .inr here

/--
A course on a ready line is a talk.

It leaves the line ready, or ends with the fault that has ended the line.
-/
theorem Obeys.talk (obeys : script.Obeys conduct) (ready : line.Ready) :
    Talk line (script.course line).exchanges ∧
      ((script.course line).line.Ready ∧
          (∀ exchange ∈ (script.course line).exchanges, ¬ exchange.Ends) ∨
        ∃ fault, (script.course line).outcome = .error (.session fault) ∧
          fault.endsConnection = true) := by
  induction script generalizing conduct line with
  | finish outcome =>
    exact ⟨⟨by simp [course], by simp [course], .nil⟩, .inl ⟨ready, by simp [course]⟩⟩
  | add added next ih => exact ih obeys.2 ready
  | ask words next ih =>
    obtain ⟨-, replied, failed⟩ := obeys
    simp only [course]
    have after : (Exchange.mk line words).Ends ∨ (Exchange.mk line words).after.Ready :=
      Exchange.ends_or_ready ready
    cases answered : (Exchange.mk line words).answer with
    -- A reply leaves the line ready, so that the rest of the script is a talk, too.
    | ok reply =>
      have goesOn := Exchange.not_ends_of_ok answered
      obtain ⟨talk, ending⟩ := ih _ (replied reply) (after.resolve_left goesOn)
      refine ⟨.cons ready goesOn talk, ending.imp_left fun left => ⟨left.1, ?_⟩⟩
      intro exchange member
      rcases List.mem_cons.mp member with rfl | member
      · exact goesOn
      · exact left.2 exchange member
    | error fault =>
      -- No fault on a ready line is about a value, so the script ends with it.
      have other : fault.isOfValue = false := Exchange.not_ofValue ready answered
      have step := failed fault
      rw [if_neg (by simp [other])] at step
      simp only [step, course]
      refine ⟨talk_single words ready, ?_⟩
      by_cases ends : (Exchange.mk line words).Ends
      · obtain ⟨same, unanswered, ending⟩ := ends
        rw [answered] at unanswered
        cases unanswered
        exact .inr ⟨fault, rfl, ending⟩
      · refine .inl ⟨after.resolve_left ends, ?_⟩
        intro exchange member
        rw [List.mem_singleton.mp member]
        exact ends

end Courses

/-- A script stays on its connection, and what can be seen of it are its requests. -/
theorem course_keeps (script : Script α) (line : Line) :
    (script.course line).line.client.isClosed = line.client.isClosed ∧
      (script.course line).line.client.link.id = line.client.link.id ∧
      (script.course line).line.events =
        line.events ++ (script.course line).exchanges.flatMap Exchange.sends ∧
      ∀ exchange ∈ (script.course line).exchanges, exchange.connection = line.client.link.id := by
  induction script generalizing line with
  | finish outcome => simp [course]
  | add added next ih => exact ih line
  | ask words next ih =>
    obtain ⟨closed, number, -, events⟩ := (Exchange.mk line words).after_keeps
    obtain ⟨closed', number', events', connections⟩ := ih _ (Exchange.mk line words).after
    -- The connection stays the same over the first request and over the later ones.
    refine ⟨closed'.trans closed, number'.trans number, ?_, ?_⟩
    · simp only [course, List.flatMap_cons]
      rw [events', events, List.append_assoc]
    · intro exchange member
      rcases List.mem_cons.mp member with rfl | later
      · rfl
      · exact (connections exchange later).trans number

/-- All requests of a course find the client open or closed as it was at the start. -/
theorem course_isClosed (script : Script α) (line : Line) :
    ∀ exchange ∈ (script.course line).exchanges,
      exchange.line.client.isClosed = line.client.isClosed := by
  induction script generalizing line with
  | finish outcome => simp [course]
  | add added next ih => exact ih line
  | ask words next ih =>
    -- A request leaves its client open or closed as it was.
    have closed := (Exchange.mk line words).after_keeps.1
    intro exchange member
    rcases List.mem_cons.mp member with rfl | later
    · rfl
    · exact (ih _ (Exchange.mk line words).after exchange later).trans closed

end Script

end RouterMetrics.Collector
