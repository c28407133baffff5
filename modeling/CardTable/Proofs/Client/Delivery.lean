import CardTable.Proofs.Client.Run

namespace CardTable

/-!
# Delivery of requests

What becomes of a request is decided when its line is submitted: the outbound
queue takes it at the end, or it is reported as not sent and is gone.  Nothing
is kept for another try, so between submission and the other end of the queue a
message is neither lost, nor doubled, nor moved.

That is stated as a balance.  What was drained together with what still waits
is, in this order, what was accepted.  Both sides are read off the effects that
an observer of the run sees: a submission counts as accepted when it built a
request and no report says that the request was not sent.
-/

namespace Outbox

/-- A message would be taken now. -/
def HasRoom (outbox : Outbox) : Prop :=
  outbox.closed = false ∧ outbox.queued.length < outbox.capacity

instance (outbox : Outbox) : Decidable outbox.HasRoom :=
  inferInstanceAs (Decidable (_ ∧ _))

/-- The queue has this capacity and keeps to it. -/
def Bounded (outbox : Outbox) (capacity : Nat) : Prop :=
  outbox.capacity = capacity ∧ outbox.queued.length ≤ capacity

theorem push_of_hasRoom {outbox : Outbox} (room : outbox.HasRoom) (message : String) :
    outbox.push message = .ok { outbox with queued := outbox.queued ++ [message] } := by
  unfold push
  rw [room.1, if_neg Bool.false_ne_true, if_neg (Nat.not_le_of_lt room.2)]

/-- Without room the queue says which of the two reasons holds. -/
theorem push_of_not_hasRoom {outbox : Outbox} (noRoom : ¬ outbox.HasRoom) (message : String) :
    outbox.push message = .error (if outbox.closed then .closed else .full) := by
  unfold push
  cases closed : outbox.closed with
  | true => rfl
  | false =>
      have full : outbox.capacity ≤ outbox.queued.length :=
        Nat.le_of_not_lt fun room => noRoom ⟨closed, room⟩
      rw [if_neg Bool.false_ne_true, if_pos full]
      rfl

end Outbox

namespace Client

/-! ## What becomes of one submission -/

section Submission

variable {client : Client} {line : String} {request : Request}

theorem submit_of_hasRoom (typed : line ≠ "")
    (asks : (client.verdict line).request? = some request) (room : client.outbox.HasRoom) :
    (client.submit line).client.outbox =
        { client.outbox with queued := client.outbox.queued ++ [request.wire] } ∧
      (client.submit line).shown = [.line (">>> " ++ line)] ∧
      (client.submit line).log = [] := by
  rw [submit_of_typed client typed, Outcome.eq_send_of_request? asks]
  dsimp only
  rw [record_client]
  simp only [sendFor, Outcome.request?, send, Outbox.push_of_hasRoom room, true_and]
  exact ⟨rfl, rfl⟩

theorem submit_of_not_hasRoom (typed : line ≠ "")
    (asks : (client.verdict line).request? = some request) (noRoom : ¬ client.outbox.HasRoom) :
    (client.submit line).client.outbox = client.outbox ∧
      (client.submit line).shown =
        [.line (">>> " ++ line), .line "### Can't send to closed socket"] ∧
      (client.submit line).log =
        (if client.outbox.closed then [] else [.queueFull]) ++
          [.requestNotSent request.command] := by
  rw [submit_of_typed client typed, Outcome.eq_send_of_request? asks]
  dsimp only
  rw [record_client]
  simp only [sendFor, Outcome.request?, send, Outbox.push_of_not_hasRoom noRoom, true_and]
  refine ⟨rfl, ?_⟩
  cases client.outbox.closed <;> rfl

theorem submit_of_asks_nothing (typed : line ≠ "")
    (asksNothing : (client.verdict line).request? = none) :
    (client.submit line).client.outbox = client.outbox ∧
      Exists fun text => (client.submit line).shown = [.line ("%%% " ++ text)] := by
  rw [submit_of_typed client typed]
  dsimp only
  rw [record_client]
  simp only [sendFor, asksNothing, List.append_nil, true_and]
  have something := client.session.interpret_ne_nothing client.roster line
  cases verdict : client.verdict line with
  | nothing => exact absurd verdict something
  | send sent =>
      rw [verdict] at asksNothing
      cases asksNothing
  | info text => exact ⟨text, rfl⟩
  | hint text => exact ⟨text, rfl⟩
  | failure cause => exact ⟨"Failed to parse: " ++ line, rfl⟩

end Submission

/-! ## The balance of a run -/

/-- The messages that an operation took out of the queue. -/
def Effect.drained (effect : Effect) : List String :=
  match effect.answer with
  | .messages texts => texts
  | _ => []

/-- The wire text that an operation got into the queue: that of the request it
built, unless the request was reported as not sent. -/
def Effect.accepted (effect : Effect) : List String :=
  match effect.built? with
  | some request =>
      if .requestNotSent request.command ∈ effect.log then [] else [request.wire]
  | none => []

/-- What an operation other than a submission does to the outbound queue. -/
theorem perform_outbox (client : Client) {operation : Operation}
    (other : forall line, operation ≠ .submit line) :
    (client.perform operation).client.outbox =
      match operation with
      | .drain => client.outbox.drain
      | .close => client.outbox.close
      | _ => client.outbox := by
  cases operation with
  | submit line => exact absurd rfl (other line)
  | receive frame => exact (client.receive_frame frame).2.2.2
  | identity player room =>
      dsimp only [perform, logIn]
      split <;> rfl
  | _ => rfl

theorem accepted_of_hasRoom {client : Client} {line : String} {request : Request}
    (typed : line ≠ "") (asks : (client.verdict line).request? = some request)
    (room : client.outbox.HasRoom) : (client.submit line).accepted = [request.wire] := by
  rw [Effect.accepted, client.submit_built? typed, asks,
    (submit_of_hasRoom typed asks room).2.2]
  rfl

theorem accepted_of_not_hasRoom {client : Client} {line : String} {request : Request}
    (typed : line ≠ "") (asks : (client.verdict line).request? = some request)
    (noRoom : ¬ client.outbox.HasRoom) : (client.submit line).accepted = [] := by
  rw [Effect.accepted, client.submit_built? typed, asks,
    (submit_of_not_hasRoom typed asks noRoom).2.2]
  exact if_pos (List.mem_append_right _ (List.mem_singleton.mpr rfl))

/-- A submission leaves the queue and counts for nothing, or there was room and
it adds at the end what counts as accepted. -/
theorem submit_cases (client : Client) (line : String) :
    ((client.submit line).accepted = [] ∧
      (client.submit line).client.outbox = client.outbox) ∨
    (client.outbox.HasRoom ∧ Exists fun text =>
      (client.submit line).accepted = [text] ∧
        (client.submit line).client.outbox =
          { client.outbox with queued := client.outbox.queued ++ [text] }) := by
  by_cases empty : line = ""
  · rw [empty, submit_empty]
    exact Or.inl ⟨rfl, rfl⟩
  · cases asks : (client.verdict line).request? with
    | none =>
        refine Or.inl ⟨?_, (submit_of_asks_nothing empty asks).1⟩
        rw [Effect.accepted, client.submit_built? empty, asks]
    | some request =>
        by_cases room : client.outbox.HasRoom
        · exact Or.inr ⟨room, request.wire, accepted_of_hasRoom empty asks room,
            (submit_of_hasRoom empty asks room).1⟩
        · exact Or.inl ⟨accepted_of_not_hasRoom empty asks room,
            (submit_of_not_hasRoom empty asks room).1⟩

theorem accepted_of_other (client : Client) {operation : Operation}
    (other : forall line, operation ≠ .submit line) :
    (client.perform operation).accepted = [] := by
  rw [Effect.accepted, client.built?_of_other other]

/-- What an operation takes out and leaves in the queue is what was in it
before, followed by what the operation got into it. -/
theorem perform_balance (client : Client) {operation : Operation} (notClose : operation ≠ .close) :
    (client.perform operation).drained ++ (client.perform operation).client.outbox.queued =
      client.outbox.queued ++ (client.perform operation).accepted := by
  cases operation with
  | submit line =>
      have nothing : (client.submit line).drained = [] := by
        by_cases empty : line = ""
        · rw [empty]
          rfl
        · rw [Effect.drained, client.submit_answer empty]
      change (client.submit line).drained ++ (client.submit line).client.outbox.queued =
        client.outbox.queued ++ (client.submit line).accepted
      rw [nothing, List.nil_append]
      rcases client.submit_cases line with ⟨none, same⟩ | ⟨_, text, one, added⟩
      · rw [none, same, List.append_nil]
      · rw [one, added]
  | receive frame =>
      have other : forall line, Operation.receive frame ≠ .submit line :=
        fun _ => Operation.noConfusion
      rw [client.accepted_of_other other, client.perform_outbox other, Effect.drained, perform,
        (client.receive_frame frame).1, List.append_nil, List.nil_append]
  | identity player room =>
      dsimp only [perform, logIn]
      split <;> exact (List.append_nil _).symm
  | drain => rfl
  | close => exact absurd rfl notClose
  | _ => exact (List.append_nil _).symm

theorem after_balance (client : Client) (operations : List Operation)
    (stillOpen : .close ∉ operations) :
    (client.effects operations).flatMap Effect.drained ++
        (client.after operations).outbox.queued =
      client.outbox.queued ++ (client.effects operations).flatMap Effect.accepted := by
  induction operations generalizing client with
  | nil => exact (List.append_nil _).symm
  | cons operation rest inductionHypothesis =>
      have parts := not_or.mp (mt List.mem_cons.mpr stillOpen)
      have later := inductionHypothesis (client.perform operation).client parts.2
      have now := client.perform_balance (Ne.symm parts.1)
      simp only [effects, after, List.flatMap_cons]
      rw [List.append_assoc, later, ← List.append_assoc, now, List.append_assoc]

theorem perform_bounded (capacity : Nat) (client : Client) (operation : Operation)
    (bounded : client.outbox.Bounded capacity) :
    (client.perform operation).client.outbox.Bounded capacity := by
  by_cases submits : Exists fun line => operation = .submit line
  · rcases submits with ⟨line, rfl⟩
    change (client.submit line).client.outbox.Bounded capacity
    rcases client.submit_cases line with ⟨_, same⟩ | ⟨room, text, _, added⟩
    · rw [same]
      exact bounded
    · rw [added]
      refine ⟨bounded.1, ?_⟩
      rw [List.length_append, List.length_singleton, ← bounded.1]
      exact room.2
  · rw [client.perform_outbox fun line same => submits ⟨line, same⟩]
    split
    · exact ⟨bounded.1, Nat.zero_le _⟩
    · exact ⟨bounded.1, Nat.zero_le _⟩
    · exact bounded

/-- Requests leave through the queue exactly once, in order, and never more
wait than the queue may hold.

For every run of a new client: the bound holds; what was drained and what still
waits is what was accepted, in the order of submission, as long as the other
end is there; and only a submission adds a message.  A submitted line whose
outcome asks for a request is echoed, and then either the request's own wire
text is added or it is reported and logged as not sent, with the full queue
named when that is the reason.  A line that asks for nothing leaves the queue
and is told of in one line, and an empty line does nothing at all. -/
theorem outbound_delivery (identity : Identity) (capacity : Nat) (operations : List Operation) :
    let client := (start identity capacity).after operations
    let effects := (start identity capacity).effects operations
    client.outbox.queued.length ≤ capacity ∧
    (.close ∉ operations ->
      effects.flatMap Effect.drained ++ client.outbox.queued =
        effects.flatMap Effect.accepted) ∧
    (forall operation, (forall line, operation ≠ .submit line) ->
      (client.perform operation).accepted = [] ∧
      ((client.perform operation).client.outbox.queued = client.outbox.queued ∨
        (client.perform operation).client.outbox.queued = [])) ∧
    (forall line request, line ≠ "" -> (client.verdict line).request? = some request ->
      (client.submit line).answer = .outcome (client.verdict line) ∧
      (client.outbox.HasRoom ->
        (client.submit line).accepted = [request.wire] ∧
        (client.submit line).client.outbox.queued = client.outbox.queued ++ [request.wire] ∧
        (client.submit line).shown = [.line (">>> " ++ line)] ∧
        (client.submit line).log = []) ∧
      (¬ client.outbox.HasRoom ->
        (client.submit line).accepted = [] ∧
        (client.submit line).client.outbox = client.outbox ∧
        (client.submit line).shown =
          [.line (">>> " ++ line), .line "### Can't send to closed socket"] ∧
        (client.submit line).log =
          (if client.outbox.closed then [] else [.queueFull]) ++
            [.requestNotSent request.command])) ∧
    (forall line, line ≠ "" -> (client.verdict line).request? = none ->
      (client.submit line).answer = .outcome (client.verdict line) ∧
      (client.submit line).client.outbox = client.outbox ∧
      Exists fun text => (client.submit line).shown = [.line ("%%% " ++ text)]) ∧
    client.submit "" = { client := client, answer := .outcome .nothing } := by
  intro client effects
  refine ⟨?_, ?_, ?_, ?_, ?_, client.submit_empty⟩
  · have bounded := after_induction (perform_bounded capacity) (start identity capacity) operations
      ⟨rfl, Nat.zero_le capacity⟩
    exact bounded.2
  · exact fun stillOpen => after_balance (start identity capacity) operations stillOpen
  · intro operation other
    refine ⟨client.accepted_of_other other, ?_⟩
    rw [client.perform_outbox other]
    split
    · exact Or.inr rfl
    · exact Or.inr rfl
    · exact Or.inl rfl
  · intro line request typed asks
    refine ⟨client.submit_answer typed, ?_, ?_⟩
    · intro room
      rcases submit_of_hasRoom typed asks room with ⟨outbox, shown, log⟩
      refine ⟨accepted_of_hasRoom typed asks room, ?_, shown, log⟩
      rw [outbox]
    · intro noRoom
      exact ⟨accepted_of_not_hasRoom typed asks noRoom,
        submit_of_not_hasRoom typed asks noRoom⟩
  · intro line typed asksNothing
    exact ⟨client.submit_answer typed, submit_of_asks_nothing typed asksNothing⟩

end Client
end CardTable
