import RouterMetrics.Proofs.Fleet.Alike
import RouterMetrics.Proofs.Fleet.Passage

/-!
Keeping clients between scrapes cannot be seen in what the scrapes give.

Main statement: a scrape that connects gives the same turns, samples and errors whether it dials, its
kept client answers, or that client does not answer and it dials again.
-/

namespace RouterMetrics.Session

/-- These are the reactions to the next requests of a client, and nothing stands unread before. -/
structure Client.Awaits (answers : List Reaction) (client : Client) : Prop where
  unread : client.link.inbox.unread = []
  reactions : client.link.reactions = answers

instance (answers : List Reaction) (client : Client) : Decidable (client.Awaits answers) :=
  decidable_of_iff (client.link.inbox.unread = [] ∧ client.link.reactions = answers)
    ⟨fun ⟨unread, reactions⟩ => ⟨unread, reactions⟩, fun awaits => ⟨awaits.unread, awaits.reactions⟩⟩

/-- Open clients that await the same answers are alike. -/
theorem Client.Awaits.alike {answers : List Reaction} {client other : Client}
    (awaits : client.Awaits answers) (awaits' : other.Awaits answers)
    (isOpen : client.isClosed = false) (isOpen' : other.isClosed = false) :
    client.Alike other where
  isClosed := isOpen.trans isOpen'.symm
  -- Nothing unread is left on either side.
  link := ⟨awaits.unread.trans awaits'.unread.symm, awaits.reactions.trans awaits'.reactions.symm⟩

end RouterMetrics.Session

namespace RouterMetrics.Fleet

open RouterMetrics.Session

/-- Asking for the identity fails only in ways that devices and connections have. -/
theorem probe_expected {line : Line} {fault : Session.Fault}
    (failed : (Exchange.mk line identityRequest).answer = .error fault) :
    fault.isExpected = true := by
  -- The request itself can be written.
  obtain ⟨bytes, written⟩ : ∃ bytes, Wire.encodeSentence identityRequest = .ok bytes := ⟨_, rfl⟩
  unfold Exchange.answer at failed
  cases closed : line.client.isClosed with
  | true =>
    simp only [run_closed closed, Except.error.injEq] at failed
    exact failed ▸ rfl
  | false =>
    cases sent : line.client.link.afterSend with
    | mk outcome link =>
      cases outcome with
      | error refusal =>
        simp only [run_refused closed written sent, Except.error.injEq] at failed
        exact failed ▸ rfl
      | ok delivered =>
        simp only [run_sent closed written sent] at failed
        cases read : readReply link.inbox with
        | ok reply rest =>
          rw [read] at failed
          cases failed
        | error other rest =>
          rw [read] at failed
          cases failed
          -- Nothing is met in a reply that concerns the request alone.
          have met : fault.CanBeMet link.inbox.ending :=
            readReplyFrom_met (fun last none => by cases none) read
          rcases met.ends_or_replied with ends | ⟨trap, reply, rfl⟩
          · exact Fault.isExpected_of_endsConnection ends
          · rfl

/-- A kept client without an answer that has rows is dropped, and no fault is raised. -/
theorem probe_silent {visit : Visit} {client : Client} (kept : visit.member.kept = some client)
    (silent : ∀ reply, (Exchange.mk (visit.line client) identityRequest).answer = .ok reply →
      reply.rows = []) :
    ∃ between, probe visit = .ok none between ∧ between.member.kept = none := by
  unfold probe
  rw [kept]
  simp only [run_eq]
  cases answered : (Exchange.mk (visit.line client) identityRequest).answer with
  -- A reply without rows is no answer.
  | ok reply =>
    simp only [silent reply answered, List.isEmpty_nil, if_true]
    exact ⟨_, rfl, rfl⟩
  -- A fault of a probe is expected, whatever it is.
  | error fault =>
    simp only [probe_expected answered, if_true]
    exact ⟨_, rfl, rfl⟩

/-- Dialling goes well and gives a client that awaits these answers. -/
def Visit.DialsTo (answers : List Reaction) (visit : Visit) : Prop :=
  match dial visit with
  | .ok client _ => client.Awaits answers
  | .error _ _ => False

instance (answers : List Reaction) (visit : Visit) : Decidable (visit.DialsTo answers) :=
  match met : dial visit with
  | .ok client _ => decidable_of_iff (client.Awaits answers) (by rw [Visit.DialsTo, met])
  | .error _ _ => .isFalse (by rw [Visit.DialsTo, met]; exact id)

/-- How a visit comes to a client that awaits some answers. -/
inductive Visit.Meets (answers : List Reaction) (visit : Visit) : Prop
  /-- No client is kept, and dialling goes well. -/
  | anew (kept : visit.member.kept = none) (dials : visit.DialsTo answers)
  /-- The kept client answers with some rows. -/
  | again {client : Client} {reply : Reply} (kept : visit.member.kept = some client)
      (answered : (Exchange.mk (visit.line client) identityRequest).answer = .ok reply)
      (rows : reply.rows ≠ [])
      (awaits : (Exchange.mk (visit.line client) identityRequest).after.client.Awaits answers)
  /-- The kept client has no answer with rows, and then dialling goes well. -/
  | instead {client : Client} (kept : visit.member.kept = some client)
      (silent : ∀ reply, (Exchange.mk (visit.line client) identityRequest).answer = .ok reply →
        reply.rows = [])
      (dials : (visitOf (probe visit)).DialsTo answers)

/-- Dialling without a kept client gives an open one, which is then kept. -/
theorem Visit.DialsTo.opens {answers : List Reaction} {visit : Visit} (dials : visit.DialsTo answers)
    (free : visit.member.kept = none) :
    ∃ client later, dial visit = .ok client later ∧ later.member.kept = some client ∧
      client.isClosed = false ∧ client.Awaits answers := by
  obtain ⟨⟨count, -, passage⟩, kept⟩ := passage_dial free
  unfold Visit.DialsTo at dials
  cases dialled : dial visit with
  | error fault later =>
    rw [dialled] at dials
    exact dials.elim
  | ok client later =>
    rw [dialled] at dials passage kept
    -- A client that dialling keeps is open.
    have isOpen := passage.keeps_open (by simp [Visit.holding, free]) client kept
    exact ⟨client, later, rfl, kept, isOpen, dials⟩

/-- A visit that meets some answers connects to an open client that awaits them. -/
theorem Visit.Meets.connects {answers : List Reaction} {visit : Visit} (meets : visit.Meets answers) :
    ∃ client later, connect visit = .ok client later ∧ later.member.kept = some client ∧
      client.isClosed = false ∧ client.Awaits answers := by
  unfold connect
  simp only [Bind.bind, EStateM.bind]
  cases meets with
  | anew kept dials =>
    rw [show probe visit = .ok none visit by rw [probe, kept]]
    exact dials.opens kept
  | @again client reply kept answered rows awaits =>
    let exchange : Exchange := ⟨visit.line client, identityRequest⟩
    have probed : probe visit = .ok (some exchange.after.client) (visit.after exchange.after) := by
      simp [probe, kept, run_eq, exchange, answered, rows]
    -- A closed client would not have answered.
    have isOpen : client.isClosed = false := by
      rw [Bool.eq_false_iff]
      intro closed
      have line : (visit.line client).client.isClosed = true := closed
      simp [Exchange.answer, run_closed line] at answered
    refine ⟨exchange.after.client, visit.after exchange.after, ?_, rfl, ?_, awaits⟩
    · rw [probed]
      rfl
    · exact exchange.after_keeps.1.trans isOpen
  | instead kept silent dials =>
    obtain ⟨between, probed, free⟩ := probe_silent kept silent
    rw [probed] at dials ⊢
    exact dials.opens free

/--
A scrape that comes to a client gives the same, whichever way it comes to it.

The turns, and with them the success and the number of errors, and the samples depend on the device,
its collectors and the answers to their requests only.
-/
theorem caching_invisible (device : Config.Device) (assignments : List Assignment)
    (answers : List Reaction)
    (registered : ∀ assignment ∈ assignments, assignment.collector ∈ Collector.all) :
    ∃ turns added, ∀ visit : Visit, visit.member.device = device →
      visit.member.assignments = assignments → visit.Meets answers →
        (scrape visit).1 = .visited turns ∧
          (scrape visit).2.ledger = visit.ledger.followedBy added ∧
          (scrape visit).2.member.errors =
            visit.member.errors + turns.countP fun turn => turn.fault.isSome := by
  -- All scrapes are compared to one with a client on a connection that was just opened.
  let client : Client := .ofLink (.fresh 0 answers)
  let model : Visit := (Visit.start device assignments .empty).keeping (some client)
  refine ⟨(takeTurns client model assignments).1, (takeTurns client model assignments).2.ledger, ?_⟩
  rintro visit rfl rfl meets
  obtain ⟨met, later, connected, kept, isOpen, awaits⟩ := meets.connects
  have same := connect_sameMember visit
  have ledger := connect_ledger visit
  rw [connected] at same ledger
  have alike : client.Alike met := Client.Awaits.alike ⟨rfl, rfl⟩ awaits rfl isOpen
  have keptAlike : KeptAlike model.member.kept later.member.kept := kept.symm ▸ .some alike
  have taken : TurnsAlike model later (takeTurns client model visit.member.assignments)
      (takeTurns met later visit.member.assignments) :=
    takeTurns_alike registered same.device alike keptAlike
  obtain ⟨added, collected, collected'⟩ := taken.collected
  -- The model starts with nothing collected, so what it has at the end was added by its turns.
  rw [show model.ledger = .empty from rfl, Metric.Ledger.empty_followedBy] at collected
  have errors : (takeTurns met later visit.member.assignments).2.member.errors =
      visit.member.errors := by
    obtain ⟨_, between⟩ := same
    obtain ⟨_, last⟩ := takeTurns_sameMember met later visit.member.assignments
    rw [last, show later.member = _ from between]
  unfold scrape attend
  rw [connected]
  dsimp only
  rw [show later.member.assignments = visit.member.assignments from same.assignments]
  refine ⟨congrArg Outcome.visited taken.turns.symm, ?_, ?_⟩
  · rw [collected, ← show later.ledger = visit.ledger from ledger]
    exact collected'
  · rw [taken.turns, ← errors]
    rfl

/-- The answers of a device that tells its load and then breaks off. -/
def brokenAnswers : List Reaction :=
  [.answer [3, 33, 114, 101, 11, 61, 99, 112, 117, 45, 108, 111, 97, 100, 61, 51, 0,
      5, 33, 100, 111, 110, 101, 0] none,
    .answer [3, 33, 114] (some .reset)]

/-- A client on a connection with a first answer before those of the device. -/
def clientBefore (first : List UInt8) : Client :=
  .ofLink (.fresh 0 (.answer first none :: brokenAnswers))

/-- The device with two collectors; a client of it may be kept, and it can be dialled. -/
def brokenVisit (kept : Option Client) : Visit :=
  let done : Reaction := .answer [5, 33, 100, 111, 110, 101, 0] none
  (Visit.start { address := "10.0.0.1" }
    [⟨"resource", Collector.Resource.collector⟩, ⟨"health", Collector.Health.collector⟩]
    (.ofList [(⟨"10.0.0.1", 8728⟩, [.opens none (done :: brokenAnswers)])])).keeping kept

/-- The bytes of a reply with one empty row, and of a sentence that ends the session. -/
def emptyRow : List UInt8 := [3, 33, 114, 101, 0, 5, 33, 100, 111, 110, 101, 0]
def sessionEnd : List UInt8 := [6, 33, 102, 97, 116, 97, 108, 0]

/--
A device that breaks off gives the same when it is dialled, answers the probe or ends its session.

Its load and version are told, and the failure of the other collector is the one error.
-/
theorem caching_invisible_in_failure :
    let visits := [brokenVisit none, brokenVisit (some (clientBefore emptyRow)),
      brokenVisit (some (clientBefore sessionEnd))]
    (∀ visit ∈ visits, visit.Meets brokenAnswers) ∧
      ∃ turns added, turns.countP (fun turn => turn.fault.isSome) = 1 ∧
        added.additions.length = 2 ∧
        ∀ visit ∈ visits, (scrape visit).1 = .visited turns ∧
          (scrape visit).2.ledger = visit.ledger.followedBy added ∧
          (scrape visit).2.member.errors =
            visit.member.errors + turns.countP fun turn => turn.fault.isSome := by
  intro visits
  have anew : (brokenVisit none).Meets brokenAnswers := .anew rfl (by decide +kernel)
  have again : (brokenVisit (some (clientBefore emptyRow))).Meets brokenAnswers := by
    let row : Wire.Sentence := ⟨"!re", "", .empty⟩
    have answered : (Exchange.mk ((brokenVisit (some (clientBefore emptyRow))).line
        (clientBefore emptyRow)) identityRequest).answer = .ok ⟨[row], ⟨"!done", "", .empty⟩⟩ := by
      decide +kernel
    exact .again rfl answered nofun (by decide +kernel)
  have instead : (brokenVisit (some (clientBefore sessionEnd))).Meets brokenAnswers := by
    refine .instead rfl (fun reply answered => ?_) (by decide +kernel)
    -- The end of a session is no reply.
    have failed : (Exchange.mk ((brokenVisit (some (clientBefore sessionEnd))).line
        (clientBefore sessionEnd)) identityRequest).answer.isOk = false := by decide +kernel
    rw [answered] at failed
    cases failed
  have meets : ∀ visit ∈ visits, visit.Meets brokenAnswers := by
    simp [visits, anew, again, instead]
  obtain ⟨turns, added, same⟩ := caching_invisible { address := "10.0.0.1" }
    [⟨"resource", Collector.Resource.collector⟩, ⟨"health", Collector.Health.collector⟩]
    brokenAnswers (by simp [Collector.all])
  refine ⟨meets, turns, added, ?_, ?_, ?_⟩
  · -- The one error of the first scrape is that of the turns.
    have errors : (scrape (brokenVisit none)).2.member.errors = 1 := by decide +kernel
    have counted := (same (brokenVisit none) rfl rfl anew).2.2
    rw [errors, show (brokenVisit none).member.errors = 0 from rfl] at counted
    omega
  · have samples : (scrape (brokenVisit none)).2.ledger.additions.length = 2 := by decide +kernel
    rw [(same (brokenVisit none) rfl rfl anew).2.1] at samples
    exact samples
  · intro visit member
    have device : visit.member.device = { address := "10.0.0.1" } := by
      simp only [visits, List.mem_cons, List.not_mem_nil, or_false] at member
      rcases member with rfl | rfl | rfl <;> rfl
    have assignments : visit.member.assignments = [⟨"resource", Collector.Resource.collector⟩,
        ⟨"health", Collector.Health.collector⟩] := by
      simp only [visits, List.mem_cons, List.not_mem_nil, or_false] at member
      rcases member with rfl | rfl | rfl <;> rfl
    exact same visit device assignments (meets visit member)

end RouterMetrics.Fleet
