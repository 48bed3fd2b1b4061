import RouterMetrics.Fleet.Member
import RouterMetrics.Proofs.Collector.Conduct

/-! Hindrances: what makes a collector end in such a way that no other one is called after it. -/

namespace RouterMetrics.Session

/-- The request cannot be written, or its reply is read to its end, whether it is refused or not. -/
def Exchange.Completed (exchange : Exchange) : Prop :=
  ∀ bytes, exchange.bytes = .ok bytes → ∃ reply, exchange.answer = .ok reply ∨
    ∃ trap, exchange.answer = .error (.device trap (some reply))

/-- A request that cannot be written has the fault of its words, or that of a closed client. -/
theorem Exchange.answer_of_unwritten {exchange : Exchange} {fault : Wire.Fault}
    (unwritten : exchange.bytes = .error fault) :
    exchange.answer = .error .closed ∨ exchange.answer = .error (.wire fault) := by
  obtain ⟨line, words⟩ := exchange
  -- A closed client does not even look at the words.
  cases closed : line.client.isClosed with
  | true => exact .inl (by simp only [answer, run_closed closed])
  | false =>
    obtain ⟨writer, failed⟩ := run_unsendable closed unwritten
    exact .inr (by simp only [answer, failed])

/-- The trap of a reply that was read to its end is not fatal. -/
theorem Exchange.trap_nonfatal {exchange : Exchange} {trap : Wire.Sentence} {reply : Reply}
    (refused : exchange.answer = .error (.device trap (some reply))) : isFatal trap = false := by
  cases written : exchange.bytes with
  | error fault => rcases exchange.answer_of_unwritten written with h | h <;> simp [h] at refused
  -- A trap with a reply comes from reading, which has the whole reply then.
  | ok bytes =>
    obtain ⟨line, words⟩ := exchange
    cases closed : line.client.isClosed with
    | true => simp [answer, run_closed closed] at refused
    | false =>
      cases sent : line.client.link.afterSend with
      | mk outcome link =>
        cases outcome with
        | error fault => simp [answer, run_refused closed written sent, Fault.network] at refused
        | ok delivered =>
          simp only [answer, run_sent closed written sent] at refused
          cases read : readReply link.inbox with
          | ok other inbox => simp [read] at refused
          | error fault inbox =>
            simp only [read, Except.error.injEq] at refused
            subst refused
            exact readReplyFrom_met (by simp) read

/-- The request cannot be written, or its answer is a reply that is a hindrance. -/
def Exchange.Hindered (hinders : List String → Reply → Prop) (exchange : Exchange) : Prop :=
  (∃ fault, exchange.bytes = .error fault) ∨
    ∃ reply, exchange.answer = .ok reply ∧ hinders exchange.words reply

/-- A request with a reply is hindered exactly by this reply. -/
theorem Exchange.hindered_of_ok {hinders : List String → Reply → Prop} {exchange : Exchange}
    {reply : Reply} (answered : exchange.answer = .ok reply) :
    exchange.Hindered hinders ↔ hinders exchange.words reply := by
  constructor
  · rintro (⟨fault, unwritten⟩ | ⟨other, same, hinder⟩)
    · -- What was not written has no reply.
      rcases exchange.answer_of_unwritten unwritten with h | h <;> simp [answered] at h
    · rw [answered] at same
      cases same
      exact hinder
  · exact fun hinder => .inr ⟨reply, answered, hinder⟩

end RouterMetrics.Session

namespace RouterMetrics.Collector

open RouterMetrics.Metric
open RouterMetrics.Session (Exchange Line Reply)

/-- After the fault no other collector is called. -/
def Fault.Stops (fault : Fault) : Prop := Fleet.consequence fault ≠ .collectorFailed

/-- A conversion that fails outside of a row takes the others their turns. -/
theorem Fault.stops_ofConversion (fault : ConversionFault) : (Fault.ofConversion fault).Stops := by
  -- Rejected values and those beyond the range both end the scrape.
  cases fault <;> simp [Fault.Stops, Fault.ofConversion, Fleet.consequence]

private theorem stops_of_unwritten {exchange : Exchange} {fault : Wire.Fault} {met : Session.Fault}
    (unwritten : exchange.bytes = .error fault) (failed : exchange.answer = .error met) :
    met.isOfValue = false ∧ (Fault.session met).Stops := by
  -- A request that cannot be written takes the others their turns.
  rcases exchange.answer_of_unwritten unwritten with closed | refused
  · rw [failed] at closed
    cases closed
    exact ⟨rfl, by simp [Fault.Stops, Fleet.consequence, Session.Fault.breaksConnection]⟩
  · rw [failed] at refused
    cases refused
    -- The words have a character without a byte, or too many of them.
    rcases Session.encodeSentence_error unwritten with ⟨run, rfl⟩ | ⟨length, rfl⟩
    · exact ⟨rfl, by simp [Fault.Stops, Fleet.consequence, Session.Fault.breaksConnection]⟩
    · exact ⟨rfl, by simp [Fault.Stops, Fleet.consequence, Session.Fault.breaksConnection,
        Session.Fault.isExpected]⟩

/-- Of the requests without a reply those are hindered whose faults take the others their turns. -/
theorem hindered_of_error {hinders : List String → Reply → Prop} {exchange : Exchange}
    {met : Session.Fault} (completed : exchange.Completed) (failed : exchange.answer = .error met) :
    met.isOfValue = false ∧ (exchange.Hindered hinders ↔ (Fault.session met).Stops) := by
  cases written : exchange.bytes with
  | error fault =>
    obtain ⟨other, stops⟩ := stops_of_unwritten written failed
    exact ⟨other, iff_of_true (.inl ⟨fault, written⟩) stops⟩
  | ok bytes =>
    -- The reply is complete, and so it is one with a trap.
    obtain ⟨reply, replied | ⟨trap, refused⟩⟩ := completed bytes written
    · rw [failed] at replied
      cases replied
    · have nonfatal := Exchange.trap_nonfatal refused
      rw [failed] at refused
      cases refused
      refine ⟨rfl, iff_of_false ?_ ?_⟩
      · rintro (⟨fault, unwritten⟩ | ⟨other, same, -⟩)
        · rw [written] at unwritten
          cases unwritten
        · rw [failed] at same
          cases same
      · simp [Fault.Stops, Fleet.consequence, nonfatal]

namespace Script

variable {α β : Type} {hinders : List String → Reply → Prop}

/-- How a script ends that asks for nothing. -/
def outcome? : Script α → Option (Except Fault α)
  | finish outcome => some outcome
  | add _ next => next.outcome?
  | ask _ _ => none

/-- The script ends, without a further request, in such a way that no other collector is called. -/
def Stops (script : Script α) : Prop :=
  ∃ fault, script.outcome? = some (.error fault) ∧ fault.Stops

/--
The script ends badly for the others exactly behind a reply that hinders it.

Where a request is not answered the script ends with it, but for faults that are about a value.
-/
def HinderedBy (hinders : List String → Reply → Prop) : Script α → Prop
  | finish (.ok _) => True
  | finish (.error fault) => ¬ fault.Stops
  | add _ next => next.HinderedBy hinders
  | ask words next =>
      (∀ reply, (hinders words reply → (next (.ok reply)).Stops) ∧
        (¬ hinders words reply → (next (.ok reply)).HinderedBy hinders)) ∧
      ∀ fault, fault.isOfValue = false → next (.error fault) = finish (.error (.session fault))

/-- What a script adds before it asks for anything. -/
def said : Script α → Ledger
  | add added next => added.followedBy next.said
  | finish _ | ask _ _ => .empty

/-- A silent script asks for nothing and leaves its line alone. -/
theorem course_of_outcome {script : Script α} {outcome : Except Fault α}
    (ended : script.outcome? = some outcome) (line : Line) :
    script.course line = ⟨[], line, script.said, outcome⟩ := by
  -- The induction is on the script, which only adds until it finishes.
  induction script with
  | finish other =>
    cases ended
    rfl
  | add added later ih => simp only [course, said, ih ended]
  | ask words later => cases ended

/-- A silent script that ends well is followed by the next one. -/
theorem outcome?_bind_ok {script : Script α} {next : α → Script β} {result : α}
    (ended : script.outcome? = some (.ok result)) :
    (script.bind next).outcome? = (next result).outcome? := by
  -- The induction is on the script: samples are added, and the next one begins.
  induction script with
  | finish outcome =>
    cases ended
    rfl
  | add added later ih => exact ih ended
  | ask words later => cases ended

/-- A silent script that fails is followed by nothing. -/
theorem outcome?_bind_error {script : Script α} {next : α → Script β} {fault : Fault}
    (ended : script.outcome? = some (.error fault)) :
    (script.bind next).outcome? = some (.error fault) := by
  -- The induction is on the script: samples are added, and the fault is its end.
  induction script with
  | finish outcome =>
    cases ended
    rfl
  | add added later ih => exact ih ended
  | ask words later => cases ended

/-- A step that only adds to the ledger ends as it does with an empty one. -/
theorem outcome?_emitting (step : Emitting α) :
    (emitting step).outcome? = some (match step .empty with
      | .ok result _ => .ok result
      | .error fault _ => .error (.ofConversion fault)) := by
  -- The samples come first, whatever the step ends with.
  unfold emitting
  cases step .empty <;> rfl

/-- What stops the others is not undone by what would come next. -/
theorem Stops.bind {script : Script α} {next : α → Script β} (stops : script.Stops) :
    (script.bind next).Stops := by
  -- The fault comes before the next script could begin.
  obtain ⟨fault, ended, stopping⟩ := stops
  exact ⟨fault, outcome?_bind_error ended, stopping⟩

/-- A script that asks for nothing is hindered by nothing, unless it stops the others. -/
theorem hinderedBy_of_outcome {script : Script α} {outcome : Except Fault α}
    (ended : script.outcome? = some outcome)
    (goesOn : ∀ fault, outcome = .error fault → ¬ fault.Stops) : script.HinderedBy hinders := by
  -- What is added on the way does not matter.
  induction script with
  | finish other =>
    cases ended
    cases outcome with
    | ok result => trivial
    | error fault => exact goesOn fault rfl
  | add added later ih => exact ih ended
  | ask words later => cases ended

/-- A script that ends well without a request is hindered by nothing. -/
theorem hinderedBy_of_done {script : Script α} {result : α}
    (ended : script.outcome? = some (.ok result)) : script.HinderedBy hinders := by
  -- There is no fault.
  refine hinderedBy_of_outcome ended fun fault failed => ?_
  cases failed

/-- Scripts in turn are hindered by what hinders each of them. -/
theorem HinderedBy.bind {script : Script α} {next : α → Script β}
    (head : script.HinderedBy hinders) (tail : ∀ result, (next result).HinderedBy hinders) :
    (script.bind next).HinderedBy hinders := by
  induction script with
  | finish outcome =>
    cases outcome with
    | ok result => exact tail result
    | error fault => exact head
  | add added later ih => exact ih head
  | ask words later ih =>
    obtain ⟨replied, failed⟩ := head
    -- A reply that hinders the first script stops both, and any other one leads on.
    refine ⟨fun reply => ⟨fun hinder => ((replied reply).1 hinder).bind,
      fun free => ih _ ((replied reply).2 free)⟩, fun fault other => ?_⟩
    simp only [failed fault other, Script.bind]

/-- A query is hindered where what is done with its reply stops the others. -/
theorem hinderedBy_query {words : List String} {next : Reply → Script α}
    (bad : ∀ reply, hinders words reply → (next reply).Stops)
    (good : ∀ reply, ¬ hinders words reply → (next reply).HinderedBy hinders) :
    ((query words).bind next).HinderedBy hinders :=
  ⟨fun reply => ⟨bad reply, good reply⟩, fun _ _ => rfl⟩

/-- A script whose own faults are only gathered ones is hindered by nothing. -/
theorem Obeys.hinderedBy {script : Script α} {conduct : Conduct} (obeys : script.Obeys conduct)
    (gathers : ∀ fault, conduct.fails fault → ¬ fault.Stops)
    (free : ∀ words reply, conduct.asks words → ¬ hinders words reply) :
    script.HinderedBy hinders := by
  induction script with
  | finish outcome =>
    cases outcome with
    | ok result => trivial
    | error fault => exact gathers fault obeys
  | add added next ih => exact ih obeys.2
  | ask words next ih =>
    obtain ⟨asks, replied, failed⟩ := obeys
    refine ⟨fun reply => ⟨fun hinder => absurd hinder (free words reply asks),
      fun _ => ih _ (replied reply)⟩, fun fault other => ?_⟩
    have step := failed fault
    -- After a fault that is about no value a script that obeys does not go on.
    rwa [if_neg (by simp [other])] at step

/-- What hinders a script may be told in other words. -/
theorem HinderedBy.congr {script : Script α} {others : List String → Reply → Prop}
    (hindered : script.HinderedBy hinders) (same : ∀ words reply, hinders words reply ↔ others words reply) :
    script.HinderedBy others := by
  -- What is said of all requests and replies is one relation.
  have equal : hinders = others := funext fun words => funext fun reply => propext (same words reply)
  exact equal ▸ hindered

/-- A course of complete replies takes the others their turns exactly if a request is hindered. -/
theorem HinderedBy.stops_iff {script : Script α} {line : Line}
    (hindered : script.HinderedBy hinders)
    (completed : ∀ exchange ∈ (script.course line).exchanges, exchange.Completed) :
    (∃ fault, (script.course line).outcome = .error fault ∧ fault.Stops) ↔
      ∃ exchange ∈ (script.course line).exchanges, exchange.Hindered hinders := by
  induction script generalizing line with
  | finish outcome =>
    refine iff_of_false ?_ (by simp [course])
    -- A script at its end is not hindered any more.
    rintro ⟨fault, rfl, stops⟩
    exact hindered stops
  | add added next ih => exact ih hindered completed
  | ask words next ih =>
    obtain ⟨replied, failed⟩ := hindered
    have first := completed ⟨line, words⟩ List.mem_cons_self
    have others : ∀ exchange ∈
        ((next (Exchange.mk line words).answer).course (Exchange.mk line words).after).exchanges,
        exchange.Completed := fun exchange member => completed exchange (List.mem_cons_of_mem _ member)
    simp only [course, List.mem_cons, exists_eq_or_imp]
    cases answered : (Exchange.mk line words).answer with
    | ok reply =>
      rw [answered] at others
      rw [Exchange.hindered_of_ok answered]
      by_cases hinder : hinders words reply
      · -- The script ends behind this reply.
        obtain ⟨fault, ended, stops⟩ := (replied reply).1 hinder
        exact iff_of_true ⟨fault, by rw [course_of_outcome ended], stops⟩ (.inl hinder)
      · rw [ih _ ((replied reply).2 hinder) others]
        exact (or_iff_right hinder).symm
    | error met =>
      -- The script ends with the fault, and nothing more is asked for.
      obtain ⟨other, hindered⟩ : met.isOfValue = false ∧
          ((Exchange.mk line words).Hindered hinders ↔ (Fault.session met).Stops) :=
        hindered_of_error first answered
      rw [failed met other, hindered]
      simp [course]

end Script

end RouterMetrics.Collector
