import RouterMetrics.Proofs.Fleet.Round

/-!
The courses of turns: what the collectors of a device do when they are called one after another.

They are told by the scripts of the collectors alone. What a scrape tells of its turns, how many errors
it has and what it collects are then derived from them.
-/

namespace RouterMetrics.Collector

/-- The fault with which a course ends, if it ends with one. -/
def Course.fault? {α : Type} (course : Course α) : Option Fault :=
  match course.outcome with
  | .ok _ => none
  | .error fault => some fault

/-- A course without a fault is one with a result. -/
theorem Course.fault?_eq_none_iff (course : Course Unit) :
    course.fault? = none ↔ course.outcome = .ok () := by
  -- The fault is what the outcome has.
  unfold Course.fault?
  cases course.outcome <;> simp

end RouterMetrics.Collector

namespace RouterMetrics.Fleet

open RouterMetrics.Collector (Course)
open RouterMetrics.Metric
open RouterMetrics.Session

/-- Collectors in turn with their courses, up to the first fault that leaves nothing to go on with. -/
def courses (client : Client) (visit : Visit) : List Assignment → List (Assignment × Course Unit)
  | [] => []
  | assignment :: later =>
      let course := turnCourse assignment client visit
      (assignment, course) ::
        match sequelOf course.fault? with
        | .onward => courses course.line.client (turnVisit assignment client visit) later
        | .dropped | .ended => []

namespace Visit

/-- The courses of a visit; without a connection there are none. -/
def courses (visit : Visit) : List (Assignment × Course Unit) :=
  match connect visit with
  | .error _ _ => []
  | .ok client later => Fleet.courses client later visit.member.assignments

/-- How many things go wrong: connecting, or else each of the courses that fail. -/
def failures (visit : Visit) : Nat :=
  match connect visit with
  | .error _ _ => 1
  | .ok _ _ => visit.courses.countP fun turn => turn.2.fault?.isSome

/-- Connecting succeeds, every collector of the device has its turn, and all courses end well. -/
def Flawless (visit : Visit) : Prop :=
  (∃ client later, connect visit = .ok client later) ∧
    visit.courses.map Prod.fst = visit.member.assignments ∧
      ∀ turn ∈ visit.courses, turn.2.outcome = .ok ()

end Visit

/-- A registered collector's turn is told as its course ends. -/
theorem takeTurn_course {assignment : Assignment}
    (registered : assignment.collector ∈ Collector.all) (client : Client) (visit : Visit) :
    takeTurn assignment client visit =
      (⟨assignment.name, (turnCourse assignment client visit).fault?⟩,
        (turnCourse assignment client visit).line.client, turnVisit assignment client visit) := by
  rw [takeTurn_eq registered]
  unfold Course.fault?
  dsimp only
  -- A result is told as no fault, and a fault as it is.
  cases (turnCourse assignment client visit).outcome <;> rfl

/-- The turns of collectors are told as their courses end, and collect what these add. -/
theorem takeTurns_courses {assignments : List Assignment}
    (registered : ∀ assignment ∈ assignments, assignment.collector ∈ Collector.all)
    (client : Client) (visit : Visit) :
    (takeTurns client visit assignments).1 = (courses client visit assignments).map
        (fun turn => ⟨turn.1.name, turn.2.fault?⟩) ∧
      (takeTurns client visit assignments).2.ledger.additions = visit.ledger.additions ++
        (courses client visit assignments).flatMap fun turn => turn.2.added.additions := by
  -- The induction is on the collectors; each leaves its client and its samples to the later ones.
  induction assignments generalizing client visit with
  | nil => simp [takeTurns, courses]
  | cons assignment later ih =>
    obtain ⟨told, collected⟩ := ih
      (fun other member => registered other (List.mem_cons_of_mem assignment member))
      (turnCourse assignment client visit).line.client (turnVisit assignment client visit)
    have added : (turnVisit assignment client visit).ledger.additions =
        visit.ledger.additions ++ (turnCourse assignment client visit).added.additions := rfl
    rw [takeTurns_step, courses, takeTurn_course (registered assignment List.mem_cons_self)]
    dsimp only
    -- What follows on the turn follows on its course.
    cases sequelOf (turnCourse assignment client visit).fault? with
    | onward =>
      rw [told, collected, added, List.append_assoc]
      exact ⟨rfl, rfl⟩
    | dropped => simp [Visit.drop_ledger, added]
    | ended => simp [added]

/-- Where no course fails, all collectors have their turns. -/
theorem courses_all {client : Client} {visit : Visit} {assignments : List Assignment}
    (clean : ∀ turn ∈ courses client visit assignments, turn.2.fault? = none) :
    (courses client visit assignments).map Prod.fst = assignments := by
  induction assignments generalizing client visit with
  | nil => rfl
  | cons assignment later ih =>
    -- The first course is among them in any case, and the later ones follow as it does not fail.
    have first : (turnCourse assignment client visit).fault? = none := by
      refine clean (assignment, turnCourse assignment client visit) ?_
      rw [courses]
      exact List.mem_cons_self
    rw [courses, first] at clean ⊢
    obtain ⟨-, others⟩ := List.forall_mem_cons.mp clean
    exact congrArg (assignment :: ·) (ih others)

section Visits

variable {visit : Visit}

/-- Nothing goes wrong exactly if the visit is flawless. -/
theorem Visit.failures_eq_zero_iff : visit.failures = 0 ↔ visit.Flawless := by
  unfold Visit.failures Visit.Flawless
  cases met : connect visit with
  | error fault later => simp
  | ok client later =>
    simp only [List.countP_eq_zero, Option.isSome_iff_ne_none, ne_eq, not_not,
      Course.fault?_eq_none_iff]
    constructor
    · intro clean
      refine ⟨⟨client, later, rfl⟩, ?_, clean⟩
      unfold Visit.courses at clean ⊢
      rw [met] at clean ⊢
      -- Every course that ends well leaves the turn to the next collector.
      exact courses_all fun turn taken => (Course.fault?_eq_none_iff turn.2).mpr (clean turn taken)
    · rintro ⟨-, -, clean⟩
      exact clean

variable (registered : visit.Registered)

include registered

/-- A scrape has an error for everything that goes wrong. -/
theorem scrape_errors : (scrape visit).1.errors = visit.failures := by
  have same := connect_sameMember visit
  unfold scrape attend Visit.failures Visit.courses
  cases met : connect visit with
  | error fault later =>
    -- A connection that fails is one error, whether devices and networks fail so or not.
    dsimp only
    split <;> rfl
  | ok client later =>
    rw [met] at same
    change visit.SameMember later at same
    have told := (takeTurns_courses (same.registered registered) client later).1
    -- Connecting leaves the device with its collectors.
    rw [same.assignments] at told
    dsimp only
    rw [same.assignments, told, Outcome.errors, List.countP_map]
    rfl

/-- A scrape collects what the courses of its turns add, one after another. -/
theorem scrape_collects (fresh : visit.afresh = visit) :
    (scrape visit).2.ledger.additions =
      visit.courses.flatMap fun turn => turn.2.added.additions := by
  have none : visit.ledger.additions = [] := by
    -- What was collected before has been put away.
    rw [← fresh]
    rfl
  have same := connect_sameMember visit
  have kept := connect_ledger visit
  unfold scrape attend Visit.courses
  cases met : connect visit with
  | error fault later =>
    rw [met] at kept
    change later.ledger.additions = _
    rw [show later.ledger = visit.ledger from kept, none]
    rfl
  | ok client later =>
    rw [met] at same kept
    change visit.SameMember later at same
    have collected := (takeTurns_courses (same.registered registered) client later).2
    rw [show later.ledger = visit.ledger from kept, none, List.nil_append] at collected
    change (takeTurns client later later.member.assignments).2.ledger.additions = _
    rw [collected, same.assignments]

end Visits

end RouterMetrics.Fleet
