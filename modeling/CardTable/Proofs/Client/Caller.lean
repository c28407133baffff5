import CardTable.Proofs.Client.Delivery
import CardTable.Proofs.Identity.Names
import CardTable.Proofs.Request.Wire
import CardTable.Proofs.Session.OwnHand

namespace CardTable

/-!
# In whose name requests go out

The player can change between two lines, while messages wait and while a choice
is pending.  A request speaks for the player of the moment at which its line is
submitted, and it keeps that name from then on: it is part of the text that is
put on the queue, and nothing rewrites that text.
-/

namespace Client

/-! ## The caller of a request -/

/-- A text that a server reads as an object with this caller. -/
def Names (text player : String) : Prop :=
  Exists fun members : Json.Members =>
    Json.read text = .ok (.object members) ∧ members.get? "caller" = some (.string player)

theorem caller_of_request? {client : Client} {line : String} {request : Request}
    (asks : (client.verdict line).request? = some request) :
    request.caller = client.session.identity.player := by
  rcases client.session.interpret_cases client.roster line with
    ⟨_, which, _, _, _, picked⟩ | ⟨_, within⟩
  · rw [verdict, picked] at asks
    cases asks
    rfl
  · exact (within.2 request asks).1

theorem names_wire (request : Request) : Names request.wire request.caller :=
  ⟨request.object, request.read_wire, request.get?_object_caller⟩

/-- What a submission gets into the queue is the request that its line builds. -/
theorem request_of_accepted {client : Client} {line text : String}
    (accepted : text ∈ (client.submit line).accepted) :
    Exists fun request =>
      (client.verdict line).request? = some request ∧ text = request.wire := by
  by_cases empty : line = ""
  · rw [empty] at accepted
    cases accepted
  · rw [Effect.accepted, client.submit_built? empty] at accepted
    split at accepted
    · next request asks =>
      split at accepted
      · cases accepted
      · exact ⟨request, asks, List.mem_singleton.mp accepted⟩
    · cases accepted

/-- The queue is left as it is, or emptied, or a submitted line puts its request
at the end, in the name of the player of that moment. -/
theorem perform_queued (client : Client) (operation : Operation) :
    (client.perform operation).client.outbox.queued = client.outbox.queued ∨
    (client.perform operation).client.outbox.queued = [] ∨
    Exists fun line => Exists fun request =>
      operation = .submit line ∧ (client.verdict line).request? = some request ∧
        (client.perform operation).client.outbox.queued =
          client.outbox.queued ++ [request.wire] ∧
        Names request.wire client.session.identity.player := by
  by_cases submits : Exists fun line => operation = .submit line
  · rcases submits with ⟨line, rfl⟩
    rcases client.submit_cases line with ⟨_, same⟩ | ⟨_, text, accepted, added⟩
    · exact Or.inl (congrArg Outbox.queued same)
    · rcases request_of_accepted (accepted ▸ List.mem_singleton.mpr rfl) with
        ⟨request, asks, rfl⟩
      have names := names_wire request
      rw [caller_of_request? asks] at names
      exact Or.inr (Or.inr ⟨line, request, rfl, asks, congrArg Outbox.queued added, names⟩)
  · rw [client.perform_outbox fun line same => submits ⟨line, same⟩]
    split
    · exact Or.inr (Or.inl rfl)
    · exact Or.inr (Or.inl rfl)
    · exact Or.inl rfl

/-! ## The identity -/

/-- A change of the identity changes the identity, or nothing at all. -/
theorem perform_logIn (client : Client) (player room : String) :
    (forall identity, Identity.create player room = .ok identity ->
      (client.perform (.identity player room)).client =
        { client with session := { client.session with identity := identity } }) ∧
    (forall cause, Identity.create player room = .error cause ->
      client.perform (.identity player room) = { client := client, answer := .refused cause }) := by
  constructor
  · intro identity accepted
    change (client.logIn player room).client = _
    unfold logIn
    rw [accepted]
  · intro cause refused
    change client.logIn player room = _
    unfold logIn
    rw [refused]

theorem interpret_identity (session : Session) (roster : Roster) (line : String) :
    (session.interpret roster line).2.identity = session.identity := by
  rcases session.interpret_cases roster line with ⟨_, _, _, _, _, picked⟩ | ⟨same, _⟩
  · rw [picked]
    rfl
  · rw [same]

/-- Nothing but an accepted change of the identity touches the identity. -/
theorem perform_identity (client : Client) (operation : Operation) :
    (client.perform operation).client.session.identity = client.session.identity ∨
    Exists fun player => Exists fun room =>
      Identity.create player room =
        .ok (client.perform operation).client.session.identity := by
  cases operation with
  | submit line =>
      refine Or.inl ?_
      change (client.submit line).client.session.identity = _
      by_cases empty : line = ""
      · rw [empty, submit_empty]
      · rw [client.submit_session empty, interpret_identity]
  | receive frame => exact Or.inl (client.receive_frame frame).2.2.1
  | identity player room =>
      cases created : Identity.create player room with
      | ok identity =>
          refine Or.inr ⟨player, room, ?_⟩
          rw [((client.perform_logIn player room).1 identity created)]
          exact created
      | error cause =>
          rw [(client.perform_logIn player room).2 cause created]
          exact Or.inl rfl
  | _ => exact Or.inl rfl

theorem perform_isName (client : Client) (operation : Operation)
    (named : Identity.IsName client.session.identity.player) :
    Identity.IsName (client.perform operation).client.session.identity.player := by
  rcases client.perform_identity operation with same | ⟨player, room, accepted⟩
  · rw [same]
    exact named
  · exact (Identity.of_create accepted).2

/-! ## Runs -/

/-- The messages that a run took out of the queue or leaves in it. -/
def messages (client : Client) (operations : List Operation) : List String :=
  (client.effects operations).flatMap Effect.drained ++ (client.after operations).outbox.queued

/-- A line of the run put this message on the queue, in the name of the player of
that moment. -/
def Submitted (client : Client) (operations : List Operation) (text : String) : Prop :=
  Exists fun earlier => Exists fun line => Exists fun later =>
    operations = earlier ++ .submit line :: later ∧
      ((client.after earlier).submit line).client.outbox.queued =
        (client.after earlier).outbox.queued ++ [text] ∧
      Names text (client.after earlier).session.identity.player

theorem mem_queued_of_drained {client : Client} {operation : Operation} {text : String}
    (member : text ∈ (client.perform operation).drained) : text ∈ client.outbox.queued := by
  cases operation with
  | submit line =>
      change text ∈ (client.submit line).drained at member
      by_cases empty : line = ""
      · rw [empty] at member
        cases member
      · rw [Effect.drained, client.submit_answer empty] at member
        cases member
  | receive frame =>
      rw [Effect.drained, perform, (client.receive_frame frame).1] at member
      cases member
  | identity player room =>
      dsimp only [perform, logIn] at member
      split at member <;> cases member
  | drain => exact member
  | _ => cases member

theorem submitted_of_perform {client : Client} {operation : Operation} {text : String}
    (rest : List Operation)
    (member : text ∈ (client.perform operation).client.outbox.queued) :
    text ∈ client.outbox.queued ∨ client.Submitted (operation :: rest) text := by
  rcases client.perform_queued operation with
    same | emptied | ⟨line, request, rfl, _, added, names⟩
  · exact Or.inl (same ▸ member)
  · rw [emptied] at member
    cases member
  · rw [added] at member
    rcases List.mem_append.mp member with before | now
    · exact Or.inl before
    · rw [List.mem_singleton.mp now]
      exact Or.inr ⟨[], line, rest, rfl, added, names⟩

/-- Every message of a run was in the queue before it or was put there by a
submitted line. -/
theorem submitted_of_mem_messages {client : Client} {operations : List Operation} {text : String}
    (member : text ∈ client.messages operations) :
    text ∈ client.outbox.queued ∨ client.Submitted operations text := by
  induction operations generalizing client with
  | nil => exact Or.inl member
  | cons operation rest inductionHypothesis =>
      rw [messages, effects, List.flatMap_cons, List.append_assoc] at member
      rcases List.mem_append.mp member with now | later
      · exact Or.inl (mem_queued_of_drained now)
      · rcases inductionHypothesis later with waits | ⟨earlier, line, after, rfl, added, names⟩
        · exact submitted_of_perform rest waits
        · exact Or.inr ⟨operation :: earlier, line, after, rfl, added, names⟩

/-- Requests go out in the name of the player who typed them.

For every run of a client that starts with an accepted identity: the player has
a name of letters; every message that left the queue or waits in it was put
there by a submitted line, in the name of the player of that moment, and so is
whatever the next operation adds; the addresses that a line does not spell out
are the hand of that same player; a refused change of the identity leaves the
client as it was, and an accepted one changes the two names and nothing else. -/
theorem caller_integrity {player room : String} {identity : Identity}
    (accepted : Identity.create player room = .ok identity) (capacity : Nat)
    (operations : List Operation) :
    let client := (start identity capacity).after operations
    let name := client.session.identity.player
    Identity.IsName name ∧
    (forall text, text ∈ (start identity capacity).messages operations ->
      (start identity capacity).Submitted operations text) ∧
    (forall operation,
      (client.perform operation).client.outbox.queued = client.outbox.queued ∨
      (client.perform operation).client.outbox.queued = [] ∨
      Exists fun line => Exists fun request =>
        operation = .submit line ∧ (client.verdict line).request? = some request ∧
          (client.perform operation).client.outbox.queued =
            client.outbox.queued ++ [request.wire] ∧
          Names request.wire name) ∧
    (forall line word arguments, Line.tokenize line = .ok (word :: arguments) ->
      (client.session.mode = .normal -> Command.ofWord? word = some .draw ->
        forall request, (client.verdict line).request? = some request ↔
          arguments = [] ∧ request = .move name "drawpile" 1 (name ++ ".hand")) ∧
      (client.session.mode = .normal -> Command.ofWord? word = some .play ->
        forall request, (client.verdict line).request? = some request ↔
          Exists fun index => Exists fun dst => Exists fun value =>
            arguments = [index, dst] ∧ readIndex index = .ok value ∧
              request = .move name (name ++ ".hand") value
                (Command.playTarget client.roster dst)) ∧
      (Command.ofWord? word = some .inspect -> forall rest, arguments = "hand" :: rest ->
        forall request, (client.verdict line).request? = some request ↔
          Exists fun index => Exists fun value =>
            rest = [index] ∧ readIndex index = .ok value ∧
              request = .inspect name (name ++ ".hand") value)) ∧
    (forall newPlayer newRoom,
      (forall cause, Identity.create newPlayer newRoom = .error cause ->
        client.perform (.identity newPlayer newRoom) =
          { client := client, answer := .refused cause }) ∧
      (forall changed, Identity.create newPlayer newRoom = .ok changed ->
        changed = ⟨Text.lower newPlayer, newRoom⟩ ∧
        (client.perform (.identity newPlayer newRoom)).client =
          { client with session := { client.session with identity := changed } })) := by
  intro client name
  have named : Identity.IsName name :=
    after_induction perform_isName (start identity capacity) operations
      (Identity.of_create accepted).2
  refine ⟨named, ?_, client.perform_queued, ?_, ?_⟩
  · intro text member
    rcases submitted_of_mem_messages member with before | submitted
    · cases before
    · exact submitted
  · intro line word arguments tokens
    refine ⟨?_, ?_, ?_⟩
    · intro normal draws request
      rw [verdict_of_command normal tokens draws]
      exact Command.draw_request?_iff _ _ _ _
    · intro normal plays request
      rw [verdict_of_command normal tokens plays]
      exact Command.play_request?_iff _ _ _ _
    · rintro inspects rest rfl request
      rw [verdict, Session.interpret_inspect _ _ tokens inspects]
      exact Command.inspecting_hand_request?_iff _ _ _
  · intro newPlayer newRoom
    have changes := client.perform_logIn newPlayer newRoom
    refine ⟨changes.2, ?_⟩
    intro changed created
    exact ⟨(Identity.of_create created).1, changes.1 changed created⟩

/-- The player changes after the first line; a second change is refused. -/
theorem messages_of_two_players :
    let run : List Operation :=
      [.submit "say hi", .identity "Bob" "hall", .identity "no body" "hall",
        .submit "inspect hand 2", .drain, .submit "draw"]
    let drawn := "\x7b\"cmd\":\"move\",\"caller\":\"bob\",\"src\":\"drawpile\",\"index\":1," ++
      "\"dst\":\"bob.hand\"\x7d"
    Identity.create "Ada" "den" = .ok ⟨"ada", "den"⟩ ∧
      (start ⟨"ada", "den"⟩ 4).messages run =
        ["\x7b\"cmd\":\"say\",\"caller\":\"ada\",\"msg\":\"hi\"\x7d",
          "\x7b\"cmd\":\"inspect\",\"caller\":\"bob\",\"area\":\"bob.hand\",\"index\":2\x7d",
          drawn] ∧
      Identity.IsName ((start ⟨"ada", "den"⟩ 4).after run).session.identity.player ∧
      (start ⟨"ada", "den"⟩ 4).Submitted run drawn := by
  intro run drawn
  have accepted : Identity.create "Ada" "den" = .ok ⟨"ada", "den"⟩ := by
    decide +kernel
  have messages : (start ⟨"ada", "den"⟩ 4).messages run =
      ["\x7b\"cmd\":\"say\",\"caller\":\"ada\",\"msg\":\"hi\"\x7d",
        "\x7b\"cmd\":\"inspect\",\"caller\":\"bob\",\"area\":\"bob.hand\",\"index\":2\x7d",
        drawn] := by
    decide +kernel
  have waits : drawn ∈ (start ⟨"ada", "den"⟩ 4).messages run :=
    messages ▸ List.mem_cons_of_mem _ (List.mem_cons_of_mem _ List.mem_cons_self)
  have integrity := caller_integrity accepted 4 run
  exact ⟨accepted, messages, integrity.1, integrity.2.1 drawn waits⟩

end Client
end CardTable
