import RouterMetrics.Proofs.Session.Ready
import RouterMetrics.Session.Dial

/-! Logging in: which requests it makes, and on which line it ends. -/

namespace RouterMetrics.Session

open RouterMetrics.Wire

/-- What the reply to the first request asks for: nothing more, or the answer to a challenge. -/
def nextLogin (user password : String) (reply : Reply) : Except Fault (Option (List String)) :=
  match reply.done.get? "ret" with
  | none => .ok none
  | some challenge =>
      match Text.readHex challenge with
      | .error position => .error (.badChallenge position)
      | .ok challenge =>
          match challengeResponse challenge password with
          | .error run => .error (.unencodablePassword run)
          | .ok response => .ok (some (challengeRequest user response))

/-- The requests of a login. -/
def loginExchanges (user password : String) (line : Line) : List Exchange :=
  let first : Exchange := ⟨line, loginRequest user password⟩
  match first.answer with
  | .error _ => [first]
  | .ok reply =>
      match nextLogin user password reply with
      | .ok (some words) => [first, ⟨first.after, words⟩]
      | .ok none | .error _ => [first]

/-- A login is one request or two, as the reply to the first one says. -/
theorem login_eq (user password : String) (line : Line) :
    login user password line =
      let first : Exchange := ⟨line, loginRequest user password⟩
      match first.answer with
      | .error fault => .error fault first.after
      | .ok reply =>
          match nextLogin user password reply with
          | .error fault => .error fault first.after
          | .ok none => .ok () first.after
          | .ok (some words) =>
              let second : Exchange := ⟨first.after, words⟩
              match second.answer with
              | .ok _ => .ok () second.after
              | .error fault => .error fault second.after := by
  unfold login nextLogin
  simp only [Bind.bind, EStateM.bind, run_eq (loginRequest user password) line]
  -- The cases are those of the next request: it is not needed, cannot be made, or is made.
  cases (Exchange.mk line (loginRequest user password)).answer with
  | error fault => rfl
  | ok reply =>
    dsimp only
    cases reply.done.get? "ret" with
    | none => rfl
    | some challenge =>
      dsimp only
      cases Text.readHex challenge with
      | error position => rfl
      | ok challenge =>
        dsimp only
        cases challengeResponse challenge password with
        | error run => rfl
        | ok response =>
          simp only [discard, Functor.discard, Functor.mapConst, Function.comp, EStateM.map, run_eq]
          cases (Exchange.mk _ (challengeRequest user response)).answer <;> rfl

/-- A login on a ready line is a talk on it. -/
theorem talk_login (user password : String) {line : Line} (ready : line.Ready) :
    Talk line (loginExchanges user password line) := by
  unfold loginExchanges
  dsimp only
  have single : Talk line [⟨line, loginRequest user password⟩] := talk_single _ ready
  cases answered : (Exchange.mk line (loginRequest user password)).answer with
  | error fault => exact single
  | ok reply =>
    -- The line of the second request is the one that the first reply has left.
    have goesOn := Exchange.not_ends_of_ok answered
    have after := (Exchange.ends_or_ready ready).resolve_left goesOn
    dsimp only
    cases nextLogin user password reply with
    | error fault => exact single
    | ok next =>
      cases next with
      | none => exact single
      | some words => exact .cons ready goesOn (talk_single words after)

/-- A login that succeeds leaves the line ready. -/
theorem login_ready (user password : String) {line after : Line} (ready : line.Ready)
    (entered : login user password line = .ok () after) :
    after.Ready ∧ after.client.link.id = line.client.link.id ∧
      ∀ exchange ∈ loginExchanges user password line, ¬ exchange.Ends := by
  rw [login_eq] at entered
  unfold loginExchanges
  dsimp only at entered ⊢
  -- A request that is answered by a reply leaves its line ready.
  have first : ∀ {reply}, (Exchange.mk line (loginRequest user password)).answer = .ok reply →
      (Exchange.mk line (loginRequest user password)).after.Ready := fun answered =>
    (Exchange.ends_or_ready ready).resolve_left (Exchange.not_ends_of_ok answered)
  have number := (Exchange.mk line (loginRequest user password)).after_keeps.2.1
  cases answered : (Exchange.mk line (loginRequest user password)).answer with
  | error fault =>
    rw [answered] at entered
    cases entered
  | ok reply =>
    rw [answered] at entered
    dsimp only at entered ⊢
    cases next : nextLogin user password reply with
    | error fault =>
      rw [next] at entered
      cases entered
    | ok words =>
      rw [next] at entered
      cases words with
      | none =>
        cases entered
        refine ⟨first answered, number, ?_⟩
        intro exchange member
        -- The first reply was all that is needed.
        rw [List.mem_singleton.mp member]
        exact Exchange.not_ends_of_ok answered
      | some words =>
        dsimp only at entered ⊢
        cases replied :
            (Exchange.mk (Exchange.mk line (loginRequest user password)).after words).answer with
        | error fault =>
          rw [replied] at entered
          cases entered
        | ok last =>
          rw [replied] at entered
          cases entered
          -- The second request was answered, so the line is ready behind it, too.
          have goesOn := Exchange.not_ends_of_ok replied
          refine ⟨(Exchange.ends_or_ready (first answered)).resolve_left goesOn,
            (Exchange.after_keeps _).2.1.trans number, ?_⟩
          intro exchange member
          simp only [List.mem_cons, List.not_mem_nil, or_false] at member
          rcases member with rfl | rfl
          · exact Exchange.not_ends_of_ok answered
          · exact goesOn

/-- The line on which a conversation ends, also when it fails. -/
def lineOf {α : Type} : EStateM.Result Fault Line α → Line
  | .ok _ line | .error _ line => line

/-- What can be seen of a login are its requests. -/
theorem login_events (user password : String) (line : Line) :
    (lineOf (login user password line)).events =
      line.events ++ (loginExchanges user password line).flatMap Exchange.sends := by
  have first := (Exchange.mk line (loginRequest user password)).after_keeps.2.2.2
  rw [login_eq]
  unfold loginExchanges
  dsimp only
  cases (Exchange.mk line (loginRequest user password)).answer with
  | error fault => simp [lineOf, first]
  | ok reply =>
    dsimp only
    cases nextLogin user password reply with
    | error fault => simp [lineOf, first]
    | ok next =>
      cases next with
      | none => simp [lineOf, first]
      | some words =>
        -- What is seen of the second request stands behind what is seen of the first one.
        have second :=
          (Exchange.mk (Exchange.mk line (loginRequest user password)).after words).after_keeps.2.2.2
        dsimp only
        cases (Exchange.mk (Exchange.mk line (loginRequest user password)).after words).answer <;>
          simp [lineOf, first, second]

/-- What follows on the first reply, if anything, is the answer to its challenge. -/
theorem nextLogin_words {user password : String} {reply : Reply} {words : List String}
    (next : nextLogin user password reply = .ok (some words)) :
    ∃ text challenge response, reply.done.get? "ret" = some text ∧
      Text.readHex text = .ok challenge ∧ challengeResponse challenge password = .ok response ∧
      words = challengeRequest user response := by
  unfold nextLogin at next
  cases asked : reply.done.get? "ret" with
  -- Without a challenge the login is over.
  | none => simp [asked] at next
  | some text =>
    cases read : Text.readHex text with
    | error position => simp [asked, read] at next
    | ok challenge =>
      cases answered : challengeResponse challenge password with
      | error run => simp [asked, read, answered] at next
      | ok response =>
        simp only [asked, read, answered, Except.ok.injEq, Option.some.injEq] at next
        exact ⟨text, challenge, response, rfl, read, answered, next.symm⟩

/-- All requests of a login are made on its connection, with the user's name. -/
theorem loginExchanges_words {user password : String} {line : Line} :
    ∀ exchange ∈ loginExchanges user password line,
      exchange.connection = line.client.link.id ∧
        (exchange.words = loginRequest user password ∨
          ∃ response, exchange.words = challengeRequest user response) := by
  let first : Exchange := ⟨line, loginRequest user password⟩
  have opening : ∀ exchange ∈ [first], exchange.connection = line.client.link.id ∧
      (exchange.words = loginRequest user password ∨
        ∃ response, exchange.words = challengeRequest user response) := by
    intro exchange member
    rw [List.mem_singleton.mp member]
    exact ⟨rfl, .inl rfl⟩
  unfold loginExchanges
  dsimp only
  cases first.answer with
  | error fault => exact opening
  | ok reply =>
    dsimp only
    cases next : nextLogin user password reply with
    | error fault => exact opening
    | ok words =>
      cases words with
      | none => exact opening
      | some words =>
        -- The second request is made where the first one was, and answers the challenge.
        obtain ⟨-, -, response, -, -, -, rfl⟩ := nextLogin_words next
        refine List.forall_mem_cons.mpr ⟨opening first List.mem_cons_self, fun exchange member => ?_⟩
        rw [List.mem_singleton.mp member]
        exact ⟨first.after_keeps.2.1, .inr ⟨response, rfl⟩⟩

/-- A login stays on its connection, and leaves it open or closed as it was. -/
theorem login_keeps (user password : String) (line : Line) :
    (lineOf (login user password line)).client.isClosed = line.client.isClosed ∧
      (lineOf (login user password line)).client.link.id = line.client.link.id := by
  obtain ⟨closed, number, -⟩ := (Exchange.mk line (loginRequest user password)).after_keeps
  rw [login_eq]
  dsimp only
  cases (Exchange.mk line (loginRequest user password)).answer with
  | error fault => exact ⟨closed, number⟩
  | ok reply =>
    dsimp only
    cases nextLogin user password reply with
    | error fault => exact ⟨closed, number⟩
    | ok next =>
      cases next with
      | none => exact ⟨closed, number⟩
      | some words =>
        -- The second request is made on the connection of the first one.
        let first : Exchange := ⟨line, loginRequest user password⟩
        obtain ⟨closed', number', -⟩ := (Exchange.mk first.after words).after_keeps
        dsimp only
        cases (Exchange.mk first.after words).answer <;>
          exact ⟨closed'.trans closed, number'.trans number⟩

end RouterMetrics.Session
