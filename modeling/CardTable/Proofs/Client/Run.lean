import CardTable.Client
import CardTable.Proofs.Session.TypedLine

namespace CardTable
namespace Client

/-!
# Runs of the client

A run is a list of operations carried out one after another.  It leaves a
client behind, and the effects that were seen on the way, one for each
operation.

The second half says which parts of the client an operation can touch.  A
submitted line is the one operation that touches several: the session through
the interpreter, the outbound queue through the request, and the history.
-/

/-- The client that a run leaves behind. -/
def after (client : Client) : List Operation -> Client
  | [] => client
  | operation :: rest => (client.perform operation).client.after rest

/-- The effects of a run, in order. -/
def effects (client : Client) : List Operation -> List Effect
  | [] => []
  | operation :: rest =>
      client.perform operation :: (client.perform operation).client.effects rest

/-- The frame that an operation receives. -/
def Operation.frame? : Operation -> Option String
  | .receive frame => some frame
  | _ => none

/-- The line that an operation submits. -/
def Operation.line? : Operation -> Option String
  | .submit line => some line
  | _ => none

/-- The request that an operation built, whether the queue took it or not. -/
def Effect.built? (effect : Effect) : Option Request :=
  match effect.answer with
  | .outcome verdict => verdict.request?
  | _ => none

/-- The frames that a run receives. -/
def received (operations : List Operation) : List String :=
  operations.filterMap Operation.frame?

/-- The lines that a run submits. -/
def submitted (operations : List Operation) : List String :=
  operations.filterMap Operation.line?

/-- All that a run displays. -/
def displayed (client : Client) (operations : List Operation) : List Shown :=
  (client.effects operations).flatMap Effect.shown

/-- All that a run logs. -/
def logged (client : Client) (operations : List Operation) : List Record :=
  (client.effects operations).flatMap Effect.log

theorem received_append (earlier later : List Operation) :
    received (earlier ++ later) = received earlier ++ received later :=
  List.filterMap_append

theorem submitted_append (earlier later : List Operation) :
    submitted (earlier ++ later) = submitted earlier ++ submitted later :=
  List.filterMap_append

theorem after_append (client : Client) (earlier later : List Operation) :
    client.after (earlier ++ later) = (client.after earlier).after later := by
  induction earlier generalizing client with
  | nil => rfl
  | cons operation rest inductionHypothesis => exact inductionHypothesis _

theorem effects_append (client : Client) (earlier later : List Operation) :
    client.effects (earlier ++ later) =
      client.effects earlier ++ (client.after earlier).effects later := by
  induction earlier generalizing client with
  | nil => rfl
  | cons operation rest inductionHypothesis =>
      exact congrArg (List.cons _) (inductionHypothesis _)

theorem displayed_append (client : Client) (earlier later : List Operation) :
    client.displayed (earlier ++ later) =
      client.displayed earlier ++ (client.after earlier).displayed later := by
  simp only [displayed, effects_append, List.flatMap_append]

theorem logged_append (client : Client) (earlier later : List Operation) :
    client.logged (earlier ++ later) =
      client.logged earlier ++ (client.after earlier).logged later := by
  simp only [logged, effects_append, List.flatMap_append]

/-- What every operation keeps, every run keeps. -/
theorem after_induction {holds : Client -> Prop}
    (step : forall client operation, holds client -> holds (client.perform operation).client)
    (client : Client) (operations : List Operation) (initially : holds client) :
    holds (client.after operations) := by
  induction operations generalizing client with
  | nil => exact initially
  | cons operation rest inductionHypothesis =>
      exact inductionHypothesis _ (step client operation initially)

/-! ## What is noticed of a run -/

/-- What is noticed of an operation, the client itself left out. -/
structure Sight where
  operation : Operation
  answer : Answer
  shown : List Shown
  log : List Record
  deriving DecidableEq, Repr

def sight (client : Client) (operation : Operation) : Sight :=
  let effect := client.perform operation
  ⟨operation, effect.answer, effect.shown, effect.log⟩

/-- What is noticed of a run, operation by operation. -/
def sights (client : Client) : List Operation -> List Sight
  | [] => []
  | operation :: rest =>
      client.sight operation :: (client.perform operation).client.sights rest

theorem map_operation_sights (client : Client) (operations : List Operation) :
    (client.sights operations).map Sight.operation = operations := by
  induction operations generalizing client with
  | nil => rfl
  | cons operation rest inductionHypothesis =>
      rw [sights, List.map_cons, inductionHypothesis]
      rfl

theorem operation_mem_of_mem_sights {client : Client} {operations : List Operation} {sight : Sight}
    (member : sight ∈ client.sights operations) : sight.operation ∈ operations := by
  have mapped := List.mem_map_of_mem (f := Sight.operation) member
  rwa [map_operation_sights] at mapped

/-! ## What a submitted line touches -/

/-- The verdict on a line that is typed now. -/
def verdict (client : Client) (line : String) : Outcome :=
  (client.session.interpret client.roster line).1

/-- With no choice pending, the first token names a command that takes the
others. -/
theorem verdict_of_command {client : Client} (normal : client.session.mode = .normal)
    {line word : String} {command : Command} {arguments : List String}
    (tokens : Line.tokenize line = .ok (word :: arguments))
    (known : Command.ofWord? word = some command) :
    client.verdict line =
      Command.resolve client.session.identity client.roster command arguments := by
  rw [verdict, Session.interpret, tokens]
  dsimp only
  rw [normal]
  dsimp only
  rw [Command.resolveWord, known]

/-- Sending touches nothing but the outbound queue. -/
theorem sendFor_client (client : Client) (outcome : Outcome) :
    (client.sendFor outcome).client =
      { client with outbox := (client.sendFor outcome).client.outbox } := by
  unfold sendFor
  split
  · unfold send
    split <;> rfl
  · rfl

/-- Keeping a line touches nothing but the history. -/
theorem record_client (client : Client) (line : String) (outcome : Outcome) :
    client.record line outcome =
      { client with history := (client.record line outcome).history } := by
  unfold record
  split <;> rfl

@[simp] theorem submit_empty (client : Client) :
    client.submit "" = { client := client, answer := .outcome .nothing } :=
  rfl

theorem submit_of_typed (client : Client) {line : String} (typed : line ≠ "") :
    client.submit line =
      let sent := sendFor
        { client with session := (client.session.interpret client.roster line).2 }
        (client.verdict line)
      { client := sent.client.record line (client.verdict line)
        answer := .outcome (client.verdict line)
        shown := display line (client.verdict line) ++ sent.shown
        log := (client.verdict line).log ++ sent.log } := by
  have filled : line.isEmpty = false :=
    Bool.eq_false_iff.mpr fun empty => typed (String.isEmpty_iff.mp empty)
  unfold submit
  rw [filled]
  rfl

theorem submit_session (client : Client) {line : String} (typed : line ≠ "") :
    (client.submit line).client.session =
      (client.session.interpret client.roster line).2 := by
  rw [submit_of_typed client typed]
  dsimp only
  rw [record_client, sendFor_client]

theorem submit_answer (client : Client) {line : String} (typed : line ≠ "") :
    (client.submit line).answer = .outcome (client.verdict line) := by
  rw [submit_of_typed client typed]

theorem submit_built? (client : Client) {line : String} (typed : line ≠ "") :
    (client.submit line).built? = (client.verdict line).request? := by
  rw [Effect.built?, client.submit_answer typed]

/-- A submitted line is answered by lines that begin with one of two marks, or
by the report that nothing can be sent. -/
theorem submit_shown {client : Client} {line : String} {shown : Shown}
    (member : shown ∈ (client.submit line).shown) :
    (Exists fun text => shown = .line (">>> " ++ text)) ∨
      (Exists fun text => shown = .line ("%%% " ++ text)) ∨
        shown = .line "### Can't send to closed socket" := by
  by_cases empty : line = ""
  · rw [empty] at member
    cases member
  · rw [submit_of_typed client empty] at member
    rcases List.mem_append.mp member with displayed | sent
    · unfold display at displayed
      split at displayed
      · cases displayed
      · exact Or.inl ⟨line, List.mem_singleton.mp displayed⟩
      · exact Or.inr (Or.inl ⟨_, List.mem_singleton.mp displayed⟩)
      · exact Or.inr (Or.inl ⟨_, List.mem_singleton.mp displayed⟩)
      · exact Or.inr (Or.inl ⟨_, List.mem_singleton.mp displayed⟩)
    · unfold sendFor send at sent
      split at sent
      · split at sent
        · cases sent
        · exact Or.inr (Or.inr (List.mem_singleton.mp sent))
      · cases sent

/-- A submitted line is refused, or its request is reported as not sent. -/
theorem submit_log {client : Client} {line : String} {record : Record}
    (member : record ∈ (client.submit line).log) :
    (Exists fun cause => record = .inputRejected cause) ∨ record = .queueFull ∨
      Exists fun command => record = .requestNotSent command := by
  by_cases empty : line = ""
  · rw [empty] at member
    cases member
  · rw [submit_of_typed client empty] at member
    rcases List.mem_append.mp member with logged | sent
    · unfold Outcome.log at logged
      split at logged
      · exact Or.inl ⟨_, List.mem_singleton.mp logged⟩
      · cases logged
    · unfold sendFor send at sent
      split at sent
      · split at sent
        · cases sent
        · unfold unsentLog at sent
          split at sent
          · rcases List.mem_cons.mp sent with full | notSent
            · exact Or.inr (Or.inl full)
            · exact Or.inr (Or.inr ⟨_, List.mem_singleton.mp notSent⟩)
          · exact Or.inr (Or.inr ⟨_, List.mem_singleton.mp sent⟩)
      · cases sent

/-! ## What the other operations answer and display -/

/-- A frame is not answered, and touches neither the history, nor the identity,
nor the outbound queue. -/
theorem receive_frame (client : Client) (frame : String) :
    (client.receive frame).answer = .done ∧
      (client.receive frame).client.history = client.history ∧
      (client.receive frame).client.session.identity = client.session.identity ∧
      (client.receive frame).client.outbox = client.outbox := by
  unfold receive
  cases Frame.read frame with
  | error fault => exact ⟨rfl, rfl, rfl, rfl⟩
  | ok content =>
      cases content with
      | choices options => cases options <;> exact ⟨rfl, rfl, rfl, rfl⟩
      | _ => exact ⟨rfl, rfl, rfl, rfl⟩

/-- A frame displays what the server sent, never a line of the client's own. -/
theorem receive_shown {client : Client} {frame : String} {text : String} :
    .line text ∉ (client.receive frame).shown := by
  intro member
  unfold receive at member
  split at member
  · next content _ =>
    cases content with
    | choices options =>
        cases options with
        | nil => cases member
        | cons first others => cases List.mem_singleton.mp member
    | unknown kind => cases member
    | _ => cases List.mem_singleton.mp member
  · cases member

/-- Only a submitted line builds a request. -/
theorem built?_of_other (client : Client) {operation : Operation}
    (other : forall line, operation ≠ .submit line) :
    (client.perform operation).built? = none := by
  cases operation with
  | submit line => exact absurd rfl (other line)
  | receive frame => rw [Effect.built?, perform, (client.receive_frame frame).1]
  | identity player room =>
      dsimp only [perform, logIn]
      split <;> rfl
  | _ => rfl

end Client
end CardTable
