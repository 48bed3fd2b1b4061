import RouterMetrics.Proofs.Collector.Hindrance

/-! Courses of scripts that are put together, and what silent scripts add. -/

namespace RouterMetrics.Collector

open RouterMetrics.Metric
open RouterMetrics.Session (Exchange Line Reply)

namespace Script

variable {α β ι : Type}

/-- The course of scripts in turn is made of theirs, unless the first one fails. -/
theorem course_bind (script : Script α) (next : α → Script β) (line : Line) :
    (script.bind next).course line =
      let first := script.course line
      match first.outcome with
      | .ok result =>
          let later := (next result).course first.line
          ⟨first.exchanges ++ later.exchanges, later.line, first.added.followedBy later.added,
            later.outcome⟩
      | .error fault => ⟨first.exchanges, first.line, first.added, .error fault⟩ := by
  -- The induction is on the first script, whose end decides whether the second one starts.
  induction script generalizing line with
  | finish outcome => cases outcome <;> rfl
  | add added later ih =>
    simp only [bind, course, ih]
    cases (later.course line).outcome with
    | ok result => simp only [Ledger.followedBy_assoc]
    | error fault => rfl
  | ask words later ih =>
    simp only [bind, course, ih]
    cases ((later (Exchange.mk line words).answer).course (Exchange.mk line words).after).outcome with
    | ok result => simp only [List.cons_append]
    | error fault => rfl

/-- A rescued script goes the same way, only its outcome is another one. -/
theorem course_rescue (script : Script Unit) (line : Line) :
    script.rescue.course line =
      let whole := script.course line
      ⟨whole.exchanges, whole.line, whole.added,
        match whole.outcome with
        | .ok () => .ok none
        | .error fault => if fault.isOfRow then .ok (some fault) else .error fault⟩ := by
  induction script generalizing line with
  | finish outcome =>
    cases outcome with
    | ok result => rfl
    -- The outcome is the only thing that a rescue changes.
    | error fault =>
      simp only [rescue, course]
      split <;> rfl
  | add added later ih => simp only [rescue, course, ih]
  | ask words later ih => simp only [rescue, course, ih]

/-- What a silent script that ends well adds stands before what is added after it. -/
theorem said_bind_ok {script : Script α} {next : α → Script β} {result : α}
    (ended : script.outcome? = some (.ok result)) :
    (script.bind next).said = script.said.followedBy (next result).said := by
  -- The induction is on the script: what is added stays in front.
  induction script with
  | finish outcome =>
    cases ended
    rfl
  | add added later ih => simp only [bind, said, ih ended, Ledger.followedBy_assoc]
  | ask words later => cases ended

/-- Nothing is added after a silent script that fails. -/
theorem said_bind_error {script : Script α} {next : α → Script β} {fault : Fault}
    (ended : script.outcome? = some (.error fault)) : (script.bind next).said = script.said := by
  -- The induction is on the script, whose end is the fault.
  induction script with
  | finish outcome =>
    cases ended
    rfl
  | add added later ih => simp only [bind, said, ih ended]
  | ask words later => cases ended

/-- A script that may not ask for anything is silent. -/
theorem Obeys.silent {script : Script α} {conduct : Conduct} (obeys : script.Obeys conduct)
    (asksNothing : ∀ words, ¬ conduct.asks words) : script.outcome? ≠ none := by
  -- The induction is on the script, which has no request that it may make.
  induction script with
  | finish outcome => exact nofun
  | add added next ih => exact ih obeys.2
  | ask words next => exact absurd obeys.1 (asksNothing words)

/-- Silent scripts in turn are silent. -/
theorem silent_bind {script : Script α} {next : α → Script β} (first : script.outcome? ≠ none)
    (later : ∀ result, (next result).outcome? ≠ none) : (script.bind next).outcome? ≠ none := by
  -- The first one ends well and is followed by the second, or it ends both.
  obtain ⟨outcome, ended⟩ := Option.ne_none_iff_exists'.mp first
  cases outcome with
  | ok result => exact outcome?_bind_ok ended ▸ later result
  | error fault => simp [outcome?_bind_error ended]

/-- A step that only adds to the ledger is silent. -/
theorem silent_emitting (step : Emitting α) : (emitting step).outcome? ≠ none := by
  -- The step has an outcome at once.
  simp [outcome?_emitting]

/-- Silent scripts for all items are silent together. -/
theorem silent_collectEach {items : List ι} {step : ι → Script Unit}
    (silent : ∀ item, (step item).outcome? ≠ none) : (collectEach items step).outcome? ≠ none := by
  -- A rescue changes how a script ends, and not whether it asks for anything.
  have rescued : ∀ script : Script Unit, script.outcome? ≠ none → script.rescue.outcome? ≠ none := by
    intro script quiet
    induction script with
    | finish outcome =>
      cases outcome with
      | ok result => simp [rescue, outcome?]
      | error fault =>
        unfold rescue
        split <;> simp [outcome?]
    | add added later ih => exact ih quiet
    | ask words later => exact absurd rfl quiet
  have gathered : (gather step items).outcome? ≠ none := by
    induction items with
    | nil => simp [gather, outcome?]
    | cons item items ih =>
      exact silent_bind (rescued _ (silent item)) fun _ => silent_bind ih fun _ => by simp [outcome?]
  refine silent_bind gathered fun faults => ?_
  split <;> simp [outcome?]

/-- A step that only adds to the ledger says what it adds to an empty one. -/
theorem said_emitting (step : Emitting α) : (emitting step).said = leftBy (step .empty) := by
  -- What is added comes before any fault.
  unfold emitting
  cases step .empty <;> simp [said, leftBy]

/-- A sample with a value for each label is told, and nothing fails. -/
theorem emitting_emit (addition : Addition)
    (complete : addition.labels.length = addition.descriptor.labels.length) :
    (emitting (emit addition)).outcome? = some (.ok ()) ∧
      (emitting (emit addition)).said.additions = [addition] := by
  -- The check of the number of labels is passed.
  have added : emit addition .empty = .ok () ⟨[addition], []⟩ := by
    simp [emit, Addition.fault?, complete, Ledger.empty]
  rw [outcome?_emitting, said_emitting, added]
  exact ⟨rfl, rfl⟩

/-- All samples of which a script tells at once are such as its conduct allows. -/
theorem Obeys.said {script : Script α} {conduct : Conduct} (obeys : script.Obeys conduct) :
    ∀ addition ∈ script.said.additions, conduct.adds addition := by
  -- The induction is on the script: each addition is allowed where it is made.
  induction script with
  | finish outcome => exact fun addition member => absurd member List.not_mem_nil
  | ask words next => exact fun addition member => absurd member List.not_mem_nil
  | add added next ih =>
    intro addition member
    rcases List.mem_append.mp member with first | later
    · exact obeys.1 addition first
    · exact ih obeys.2 addition later

section Gathered

variable {step : ι → Script Unit} {words : ι → List String} {tail : ι → Reply → Script Unit}

/-- A request with a silent script behind it makes this one request and adds what is said behind it. -/
theorem course_query (request : List String) {next : Reply → Script α}
    (silent : ∀ reply, (next reply).outcome? ≠ none) (line : Line) :
    let exchange : Exchange := ⟨line, request⟩
    let course := ((query request).bind next).course line
    course.exchanges = [exchange] ∧ course.line = exchange.after ∧
      course.added = match exchange.answer with
        | .ok reply => (next reply).said
        | .error _ => .empty := by
  rw [course_bind]
  simp only [query, course]
  cases (Exchange.mk line request).answer with
  | error fault => simp [Except.mapError]
  -- The script behind the reply is silent, so that nothing else is asked.
  | ok reply =>
    obtain ⟨outcome, ended⟩ := Option.ne_none_iff_exists'.mp (silent reply)
    simp [Except.mapError, course_of_outcome ended]

/-- A gathering script goes on behind its first step, or it ends with a fault that costs more than a row. -/
theorem course_gather_cons (step : ι → Script Unit) (item : ι) (items : List ι) (line : Line) :
    let whole := (gather step (item :: items)).course line
    let first := (step item).course line
    let later := (gather step items).course first.line
    whole.exchanges = first.exchanges ++ later.exchanges ∧
        whole.added = first.added.followedBy later.added ∨
      whole.exchanges = first.exchanges ∧ whole.added = first.added ∧
        ∃ fault, first.outcome = .error fault ∧ fault.isOfRow = false := by
  simp only [gather, course_bind, course_rescue]
  cases ((step item).course line).outcome with
  | ok result =>
    left
    cases ((gather step items).course ((step item).course line).line).outcome <;> simp [course]
  | error fault =>
    -- A fault that costs one row only is gathered, and any other one ends the whole.
    by_cases ofRow : fault.isOfRow
    · left
      simp only [ofRow, if_true]
      cases ((gather step items).course ((step item).course line).line).outcome <;> simp [course]
    · right
      simp [ofRow]

/-- A request with a silent script behind it fails with what it meets, or as the script does. -/
theorem outcome_query (request : List String) {next : Reply → Script α}
    (silent : ∀ reply, (next reply).outcome? ≠ none) {line : Line} {fault : Fault}
    (failed : (((query request).bind next).course line).outcome = .error fault) :
    (∃ met, (Exchange.mk line request).answer = .error met) ∨
      ∃ reply, (next reply).outcome? = some (.error fault) := by
  rw [course_bind] at failed
  simp only [query, course] at failed
  cases answered : (Exchange.mk line request).answer with
  -- The reply has not come.
  | error met => exact .inl ⟨met, rfl⟩
  -- Behind the reply the outcome does not depend on the line.
  | ok reply =>
    obtain ⟨outcome, ended⟩ := Option.ne_none_iff_exists'.mp (silent reply)
    simp only [answered, Except.mapError, course_of_outcome ended] at failed
    exact .inr ⟨reply, failed ▸ ended⟩

/-- Failing at the end for what was gathered asks for nothing and adds nothing. -/
theorem course_collectEach (items : List ι) (step : ι → Script Unit) (line : Line) :
    ((collectEach items step).course line).exchanges = ((gather step items).course line).exchanges ∧
      ((collectEach items step).course line).added = ((gather step items).course line).added := by
  simp only [collectEach, course_bind]
  cases ((gather step items).course line).outcome with
  | error fault => exact ⟨rfl, rfl⟩
  -- Where there are faults the script fails, and else it ends well, both in silence.
  | ok faults => cases faults <;> simp [course]

/--
Steps of one request each, with a silent script behind it: one request for each item, in order.

What they add is what is said behind the replies.
-/
theorem gather_adds_iff (steps : ∀ item, step item = (query (words item)).bind (tail item))
    (silent : ∀ item reply, (tail item reply).outcome? ≠ none) (P : Addition → Prop)
    (items : List ι) (line : Line) :
    (∃ addition ∈ ((gather step items).course line).added.additions, P addition) ↔
      ∃ pair ∈ items.zip ((gather step items).course line).exchanges, ∃ reply,
        pair.2.answer = .ok reply ∧ ∃ addition ∈ (tail pair.1 reply).said.additions, P addition := by
  induction items generalizing line with
  | nil => simp [gather, course, Ledger.empty]
  | cons item items ih =>
    obtain ⟨asked, -, added⟩ := course_query (words item) (silent item) line
    rw [← steps item] at asked added
    -- The first step adds something only if its request is answered by a reply.
    have first : (∃ addition ∈ ((step item).course line).added.additions, P addition) ↔
        ∃ reply, (Exchange.mk line (words item)).answer = .ok reply ∧
          ∃ addition ∈ (tail item reply).said.additions, P addition := by
      rw [added]
      cases (Exchange.mk line (words item)).answer <;> simp [Ledger.empty]
    rcases course_gather_cons step item items line with ⟨exchanges, whole⟩ | ⟨exchanges, whole, -⟩
    · -- The first step's samples stand before those of the later ones.
      rw [exchanges, whole, asked]
      simp only [Ledger.followedBy, List.mem_append, or_and_right, exists_or, first, ih,
        List.singleton_append, List.zip_cons_cons, List.mem_cons, exists_eq_left]
    · -- There are no requests for the later items.
      rw [exchanges, whole, asked, first]
      simp

end Gathered

end Script

end RouterMetrics.Collector
