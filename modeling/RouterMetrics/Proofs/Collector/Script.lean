import RouterMetrics.Collector.Basic
import RouterMetrics.Proofs.Metric.Emitting
import RouterMetrics.Proofs.Session.Ready

/-!
Scripts: what a collector asks, adds and ends with, told apart from the line on which it talks.

A computation of a collector that is the performance of a script does nothing else.
-/

namespace RouterMetrics.Collector

open RouterMetrics.Metric
open RouterMetrics.Session (Exchange Line Reply)

/-- What a collector does: it asks and goes on with the answer, adds to its ledger, or finishes. -/
inductive Script (α : Type) where
  | finish (outcome : Except Fault α)
  | add (added : Ledger) (next : Script α)
  | ask (words : List String) (next : Except Session.Fault Reply → Script α)

/-- What comes of a script on a line. -/
structure Course (α : Type) where
  exchanges : List Exchange
  line : Line
  added : Ledger
  outcome : Except Fault α

/-- The outcome of a computation in the state that it leaves. -/
def resultOf {α : Type} (outcome : Except Fault α) (scrape : Scrape) :
    EStateM.Result Fault Scrape α :=
  match outcome with
  | .ok result => .ok result scrape
  | .error fault => .error fault scrape

namespace Script

variable {α β ι : Type}

/-- The computation that does what the script says. -/
def perform : Script α → Collecting α
  | finish outcome => resultOf outcome
  | add added next => fun scrape =>
      next.perform { scrape with ledger := scrape.ledger.followedBy added }
  | ask words next => fun scrape =>
      let exchange : Exchange := ⟨scrape.line, words⟩
      (next exchange.answer).perform { scrape with line := exchange.after }

/-- The exchanges of a script that starts on a line, and how it ends there. -/
def course : Script α → Line → Course α
  | finish outcome, line => ⟨[], line, .empty, outcome⟩
  | add added next, line =>
      let later := next.course line
      { later with added := added.followedBy later.added }
  | ask words next, line =>
      let exchange : Exchange := ⟨line, words⟩
      let later := (next exchange.answer).course exchange.after
      { later with exchanges := exchange :: later.exchanges }

/-- A performance leaves the line and the ledger as the course of the script says. -/
theorem perform_eq (script : Script α) (scrape : Scrape) :
    script.perform scrape =
      resultOf (script.course scrape.line).outcome
        ⟨(script.course scrape.line).line,
          scrape.ledger.followedBy (script.course scrape.line).added⟩ := by
  -- The induction is on the script; the line and the ledger change from step to step.
  induction script generalizing scrape with
  | finish outcome => simp [perform, course]
  | add added next ih => simp [perform, course, ih, Ledger.followedBy_assoc]
  | ask words next ih => simp [perform, course, ih]

/-- A script, and another one that goes on with its result. -/
def bind (next : α → Script β) : Script α → Script β
  | finish (.ok result) => next result
  | finish (.error fault) => finish (.error fault)
  | add added later => add added (later.bind next)
  | ask words later => ask words fun answer => (later answer).bind next

/-- Scripts in turn are performed in turn. -/
theorem perform_bind (script : Script α) (next : α → Script β) :
    (script.bind next).perform = script.perform >>= fun result => (next result).perform := by
  induction script with
  | finish outcome => cases outcome <;> rfl
  | add added later ih =>
    -- Both sides make the same step first, and the rest of the script is shorter.
    funext scrape
    simp only [bind, perform, ih]
    rfl
  | ask words later ih =>
    funext scrape
    simp only [bind, perform, ih]
    rfl

/-- Asks, and finishes with the answer. -/
def query (words : List String) : Script Reply :=
  ask words fun answer => finish (answer.mapError .session)

/-- The performed query is the query itself. -/
theorem perform_query (words : List String) : (query words).perform = Collector.query words := by
  -- The answer decides in both.
  funext scrape
  simp only [query, perform, Collector.query, Session.run_eq]
  cases (Exchange.mk scrape.line words).answer <;> rfl

/-- Adds what a step adds to an empty ledger. -/
def emitting (step : Emitting α) : Script α :=
  match step .empty with
  | .ok result added => add added (finish (.ok result))
  | .error fault added => add added (finish (.error (.ofConversion fault)))

/-- A step that only appends to its ledger is performed as it is. -/
theorem perform_emitting {step : Emitting α}
    (appends : ∀ ledger, step ledger = behind ledger (step .empty)) :
    (emitting step).perform = Collector.emitting step := by
  -- What the step appends does not depend on the ledger.
  funext scrape
  simp only [emitting, Collector.emitting, appends scrape.ledger]
  cases step .empty <;> rfl

/-- The script with the faults that cost one row only given back as results. -/
def rescue : Script Unit → Script (Option Fault)
  | finish (.ok ()) => finish (.ok none)
  | finish (.error fault) => if fault.isOfRow then finish (.ok (some fault)) else finish (.error fault)
  | add added later => add added later.rescue
  | ask words later => ask words fun answer => (later answer).rescue

/-- A rescued script is performed as the script is, up to its outcome. -/
theorem perform_rescue (script : Script Unit) (scrape : Scrape) :
    script.rescue.perform scrape =
      match script.perform scrape with
      | .ok () scrape => .ok none scrape
      | .error fault scrape =>
          if fault.isOfRow then .ok (some fault) scrape else .error fault scrape := by
  induction script generalizing scrape with
  | finish outcome =>
    cases outcome with
    | ok result => rfl
    -- Only the end of a script is changed by a rescue.
    | error fault =>
      simp only [rescue, perform, resultOf]
      split <;> rfl
  | add added later ih => simp only [rescue, perform, ih]
  | ask words later ih => simp only [rescue, perform, ih]

/-- A script for every item, with the faults that cost one row only gathered. -/
def gather (step : ι → Script Unit) : List ι → Script (List Fault)
  | [] => finish (.ok [])
  | item :: items =>
      (step item).rescue.bind fun fault =>
        (gather step items).bind fun faults => finish (.ok (fault.toList ++ faults))

/-- The gathering script is performed as the steps are gathered. -/
theorem perform_gather (step : ι → Script Unit) (items : List ι) :
    (gather step items).perform =
      Collector.gather Fault.isOfRow (fun item => (step item).perform) items := by
  induction items with
  | nil => rfl
  | cons item items ih =>
    funext scrape
    simp only [gather, perform_bind, ih, Collector.gather]
    simp only [Bind.bind, EStateM.bind, perform_rescue]
    -- The first item is done, costs its row only, or ends the whole.
    cases (step item).perform scrape with
    | ok result after =>
      dsimp only
      cases Collector.gather Fault.isOfRow (fun item => (step item).perform) items after <;> rfl
    | error fault after =>
      cases ofRow : fault.isOfRow with
      | true =>
        simp only [ofRow, if_true]
        cases Collector.gather Fault.isOfRow (fun item => (step item).perform) items after <;> rfl
      | false => simp only [ofRow, Bool.false_eq_true, if_false]

/-- A script for every item that fails at the end if one of them failed. -/
def collectEach (items : List ι) (step : ι → Script Unit) : Script Unit :=
  (gather step items).bind fun faults =>
    if faults.isEmpty then finish (.ok ()) else finish (.error (.gathered heading faults))

/-- The scripts for all items are performed for each of them. -/
theorem perform_collectEach (items : List ι) (step : ι → Script Unit) :
    (collectEach items step).perform =
      Collector.collectEach items fun item => (step item).perform := by
  simp only [collectEach, perform_bind, perform_gather, Collector.collectEach]
  -- Both fail for the same faults, as soon as there are any.
  congr 1
  funext faults
  cases faults <;> rfl

end Script

end RouterMetrics.Collector
