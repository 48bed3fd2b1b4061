import RouterMetrics.Proofs.Collector.Hindering
import RouterMetrics.Proofs.Fleet.History

/-!
Which collectors of a device are called.

Main statement: where every reply is complete, all of them are called exactly if none but the last
one meets a hindrance.
-/

namespace RouterMetrics.Fleet

open RouterMetrics.Collector (Hinders scriptOf)
open RouterMetrics.Session

/-- One of the requests of a turn could not be written, or its reply is a hindrance. -/
def Obstructed (turn : Assignment × List Exchange) : Prop :=
  ∃ exchange ∈ turn.2, exchange.Hindered (Hinders turn.1.collector)

/-- The turns that are told of are those that were taken, in their order. -/
theorem takeTurns_collectors (client : Client) (visit : Visit) (assignments : List Assignment) :
    (takeTurns client visit assignments).1.map Turn.collector =
      (turnsTaken client visit assignments).map fun turn => turn.1.name := by
  -- The induction is on the collectors: what follows on a turn is the same for both.
  induction assignments generalizing client visit with
  | nil => rfl
  | cons assignment later ih =>
    rw [takeTurns_step, turnsTaken_step]
    dsimp only
    cases sequelOf (takeTurn assignment client visit).1.fault <;> simp [takeTurn_collector, ih]

/-- Turns are taken in the order of the collectors, and none is passed over. -/
theorem turnsTaken_prefix (client : Client) (visit : Visit) (assignments : List Assignment) :
    (turnsTaken client visit assignments).map Prod.fst <+: assignments := by
  -- The induction is on the collectors: turns stop, but skip nobody.
  induction assignments generalizing client visit with
  | nil => exact List.prefix_rfl
  | cons assignment later ih =>
    rw [turnsTaken_step]
    dsimp only
    cases sequelOf (takeTurn assignment client visit).1.fault <;> simp [ih]

/-- A turn with complete replies is followed by that of the next collector unless it is obstructed. -/
theorem turnsTaken_cons {assignment : Assignment} (registered : assignment.collector ∈ Collector.all)
    (later : List Assignment) {client : Client} {visit : Visit}
    (completed : ∀ exchange ∈ (turnCourse assignment client visit).exchanges, exchange.Completed) :
    let turn := (assignment, (turnCourse assignment client visit).exchanges)
    (Obstructed turn → turnsTaken client visit (assignment :: later) = [turn]) ∧
      (¬ Obstructed turn → turnsTaken client visit (assignment :: later) =
        turn :: turnsTaken (turnCourse assignment client visit).line.client
          (turnVisit assignment client visit) later) := by
  have taken := takeTurn_eq registered client visit
  -- The collector's turn ends the scrape exactly if one of its requests is hindered.
  have stops : (∃ fault, (turnCourse assignment client visit).outcome = .error fault ∧ fault.Stops) ↔
      Obstructed (assignment, (turnCourse assignment client visit).exchanges) :=
    (Collector.hinderedBy_scriptOf registered visit.member.device assignment.name).stops_iff completed
  dsimp only
  rw [← stops]
  simp only [turnsTaken, taken]
  cases ended : (turnCourse assignment client visit).outcome with
  | ok result => exact ⟨by simp, fun _ => rfl⟩
  | error fault =>
    simp only [Except.error.injEq, exists_eq_left', Collector.Fault.Stops, Option.map_some]
    -- Only a collector that failed on its own account is followed by another one.
    cases consequence fault <;> simp

/-- All collectors have their turns exactly if no turn but the last is obstructed. -/
theorem turnsTaken_all_iff {assignments : List Assignment}
    (registered : ∀ assignment ∈ assignments, assignment.collector ∈ Collector.all)
    {client : Client} {visit : Visit}
    (completed : ∀ turn ∈ turnsTaken client visit assignments,
      ∀ exchange ∈ turn.2, exchange.Completed) :
    (turnsTaken client visit assignments).map Prod.fst = assignments ↔
      ∀ turn ∈ (turnsTaken client visit assignments).take (assignments.length - 1),
        ¬ Obstructed turn := by
  induction assignments generalizing client visit with
  -- The last turn does not matter, since nothing was to come after it.
  | nil => simp [turnsTaken]
  | cons assignment later ih =>
    -- The requests of the first turn are complete, whatever comes after it.
    have first : ∀ exchange ∈ (turnCourse assignment client visit).exchanges, exchange.Completed := by
      intro exchange member
      refine completed (assignment, (turnCourse assignment client visit).exchanges) ?_ exchange member
      unfold turnsTaken
      exact List.mem_cons_self
    obtain ⟨ends, goesOn⟩ := turnsTaken_cons (registered assignment List.mem_cons_self) later first
    by_cases obstructed : Obstructed (assignment, (turnCourse assignment client visit).exchanges)
    · rw [ends obstructed]
      -- The first turn is the only one, which may be obstructed where it is the last one, too.
      cases later with
      | nil => simp
      | cons other later => simp [obstructed]
    · -- The first turn is followed by the others, to which the induction applies.
      have others := goesOn obstructed
      rw [others] at completed ⊢
      have rest := ih (fun other member => registered other (List.mem_cons_of_mem assignment member))
        fun turn member => completed turn (List.mem_cons_of_mem _ member)
      cases later with
      | nil => simp [turnsTaken]
      | cons other later =>
        simp only [List.map_cons, List.cons.injEq, true_and, List.length_cons,
          Nat.add_sub_cancel, List.take_succ_cons, List.forall_mem_cons]
        rw [rest]
        simp [obstructed]

/--
A scrape with complete replies calls the collectors of its device one after another.

It calls all of them exactly if none but the last one is obstructed by a request that cannot be
written or by a reply that is a hindrance to it.
-/
theorem every_collector_called_iff {visit later : Visit} {client : Client}
    (registered : visit.Registered) (connected : connect visit = .ok client later)
    (completed : ∀ turn ∈ turnsTaken client later later.member.assignments,
      ∀ exchange ∈ turn.2, exchange.Completed) :
    let taken := turnsTaken client later later.member.assignments
    ∃ turns, (scrape visit).1 = .visited turns ∧
      turns.map Turn.collector = taken.map (fun turn => turn.1.name) ∧
      taken.map Prod.fst <+: visit.member.assignments ∧
      (taken.map Prod.fst = visit.member.assignments ↔
        ∀ turn ∈ taken.take (visit.member.assignments.length - 1), ¬ Obstructed turn) := by
  have same := connect_sameMember visit
  rw [connected] at same
  -- To connect does not change what is to be called.
  have assignments : later.member.assignments = visit.member.assignments := same.assignments
  have called := turnsTaken_all_iff (assignments ▸ registered) completed
  refine ⟨(takeTurns client later later.member.assignments).1, ?_, takeTurns_collectors _ _ _, ?_, ?_⟩
  · unfold scrape attend
    rw [connected]
  · rw [← assignments]
    exact turnsTaken_prefix _ _ _
  · rw [← assignments]
    exact called

/-- A device that counts its routes in letters, and whose resources are to be read after that. -/
def lettered : Visit :=
  let done : Reaction := .answer [5, 33, 100, 111, 110, 101, 0] none
  -- The reply to the second request has the count in letters.
  let count : Reaction :=
    .answer [5, 33, 100, 111, 110, 101, 6, 61, 114, 101, 116, 61, 120, 0] none
  .start { address := "10.0.0.1" }
    [⟨"routes", Collector.Routes.collector⟩, ⟨"resource", Collector.Resource.collector⟩]
    (.ofList [(⟨"10.0.0.1", 8728⟩, [.opens none [done, count, done]])])

/-- The count is complete, but it is no number, and the resources are not read any more. -/
theorem lettered_count_stops_resource :
    ∃ client later, connect lettered = .ok client later ∧
      (∃ turns, (scrape lettered).1 = .visited turns ∧ turns.map Turn.collector = ["routes"]) ∧
      ¬ ∀ turn ∈ (turnsTaken client later later.member.assignments).take 1, ¬ Obstructed turn := by
  have names : (visitTurns lettered).map (fun turn => turn.1.name) = ["routes"] := by
    decide +kernel
  -- All replies on the way are complete ones.
  have answered : ∀ turn ∈ visitTurns lettered, ∀ exchange ∈ turn.2, exchange.answer.isOk = true := by
    simp only [← List.all_eq_true]
    decide +kernel
  unfold visitTurns at names answered
  cases connected : connect lettered with
  | error fault later => simp [connected] at names
  | ok client later =>
    simp only [connected] at names answered
    have completed : ∀ turn ∈ turnsTaken client later later.member.assignments,
        ∀ exchange ∈ turn.2, exchange.Completed := by
      intro turn member exchange asked bytes written
      have good := answered turn member exchange asked
      cases answer : exchange.answer with
      | ok reply => exact ⟨reply, .inl rfl⟩
      | error fault => simp [answer, Except.isOk, Except.toBool] at good
    have registered : lettered.Registered := by
      simp [Visit.Registered, lettered, Visit.start, Member.ofDevice, Collector.all]
    obtain ⟨turns, visited, told, -, all⟩ :=
      every_collector_called_iff registered connected completed
    refine ⟨client, later, rfl, ⟨turns, visited, told.trans names⟩, fun free => ?_⟩
    -- If nothing were in the way both collectors would have been called.
    have both := congrArg (List.map Assignment.name) (all.mpr free)
    rw [List.map_map] at both
    exact absurd (names.symm.trans both) (by decide)

end RouterMetrics.Fleet
