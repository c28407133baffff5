import CardTable.Proofs.Client.Run
import CardTable.Proofs.History.Cursor
import CardTable.Proofs.Line.Quoting
import CardTable.Proofs.Session.MissingArguments

namespace CardTable

/-!
# Recall during a run

The history holds the submitted lines, newest first, each as it was typed.  Only
two kinds of line are missing: empty ones, and those that stay in the input field
because their command lacks arguments.  A line that is refused is kept, and so is
one whose request the queue does not take.

The cursor never points past the oldest entry.  The recall keys move the cursor
and leave the entries, and what the field shows after each of them is the entry
at the cursor, or the draft when the cursor is away.
-/

namespace Outcome

theorem clearsInput_of_isFailure {outcome : Outcome} (fails : outcome.isFailure = true) :
    outcome.clearsInput = true := by
  cases outcome with
  | failure cause => rfl
  | _ => cases fails

theorem clearsInput_of_request? {outcome : Outcome} (asks : outcome.request?.isSome = true) :
    outcome.clearsInput = true := by
  cases outcome with
  | send request => rfl
  | _ => cases asks

end Outcome

namespace Client

/-- The answer tells the player that arguments are missing. -/
def Answer.asksForArguments : Answer -> Bool
  | .outcome verdict => verdict.asksForArguments
  | _ => false

/-- The line that an operation leaves in the history: the submitted one, unless
it is empty or answered by the hint that arguments are missing. -/
def Sight.recorded? (sight : Sight) : Option String :=
  match sight.operation with
  | .submit line =>
      if line.isEmpty || sight.answer.asksForArguments then none else some line
  | _ => none

/-- The keys that go through the history. -/
def Operation.browses : Operation -> Bool
  | .up _ | .down | .escape => true
  | _ => false

/-! ## One operation -/

theorem recorded?_empty (client : Client) : (client.sight (.submit "")).recorded? = none :=
  rfl

theorem recorded?_of_typed (client : Client) {line : String} (typed : line ≠ "") :
    (client.sight (.submit line)).recorded? =
      if (client.verdict line).clearsInput then some line else none := by
  have filled : line.isEmpty = false :=
    Bool.eq_false_iff.mpr fun empty => typed (String.isEmpty_iff.mp empty)
  have told := (client.session.interpret_consumedOrHint client.roster line).clearsInput
  rw [← verdict] at told
  dsimp only [Sight.recorded?, sight, perform]
  rw [client.submit_answer typed, filled, Bool.false_or, Answer.asksForArguments]
  cases asks : (client.verdict line).asksForArguments <;> rw [asks] at told <;> rw [told] <;> rfl

/-- A line of blanks names no command. -/
theorem verdict_of_blanks (client : Client) {line : String}
    (blanks : forall c, c ∈ line.toList -> Line.isBlank c = true) :
    client.verdict line = .failure (.unknownCommand "") := by
  rw [verdict, Session.interpret, Line.tokenize_blanks blanks]

theorem submit_history (client : Client) (line : String) :
    (client.submit line).client.history =
      match (client.sight (.submit line)).recorded? with
      | some kept => client.history.submit kept
      | none => client.history := by
  by_cases empty : line = ""
  · rw [empty, recorded?_empty, submit_empty]
  · rw [recorded?_of_typed client empty, submit_of_typed client empty]
    dsimp only
    rw [sendFor_client, record]
    cases (client.verdict line).clearsInput <;> rfl

/-- A recall key only moves the history, keeps the entries, and is answered by
what the field shows then. -/
theorem perform_of_browses {operation : Operation} (browses : operation.browses = true)
    (client : Client) :
    Exists fun history : History =>
      client.perform operation = client.browse history ∧
        history.entries = client.history.entries ∧
        (client.history.InBounds -> history.InBounds) := by
  cases operation with
  | up field =>
      exact ⟨_, rfl, client.history.up_entries field, fun inBounds => inBounds.up field⟩
  | down => exact ⟨_, rfl, rfl, History.InBounds.down⟩
  | escape => exact ⟨_, rfl, rfl, fun _ => History.inBounds_of_cursor_none rfl⟩
  | _ => cases browses

/-- An operation adds the line that it records, and no other. -/
theorem perform_entries (client : Client) (operation : Operation) :
    (client.perform operation).client.history.entries =
      (client.sight operation).recorded?.toList ++ client.history.entries := by
  cases operation with
  | submit line =>
      rw [perform, submit_history]
      cases (client.sight (.submit line)).recorded? <;> rfl
  | receive frame =>
      rw [perform, (client.receive_frame frame).2.1]
      rfl
  | up field => exact client.history.up_entries field
  | key field => exact client.history.typed_entries field
  | identity player room =>
      dsimp only [perform, logIn]
      split <;> rfl
  | _ => rfl

theorem perform_inBounds (client : Client) (operation : Operation)
    (inBounds : client.history.InBounds) :
    (client.perform operation).client.history.InBounds := by
  cases operation with
  | submit line =>
      rw [perform, submit_history]
      cases (client.sight (.submit line)).recorded? with
      | none => exact inBounds
      | some kept => exact History.inBounds_of_cursor_none rfl
  | receive frame =>
      rw [perform, (client.receive_frame frame).2.1]
      exact inBounds
  | up field => exact inBounds.up field
  | down => exact inBounds.down
  | escape => exact History.inBounds_of_cursor_none rfl
  | key field => exact inBounds.typed field
  | identity player room =>
      dsimp only [perform, logIn]
      split <;> exact inBounds
  | drain => exact inBounds
  | close => exact inBounds

/-- The history holds what the run recorded, newest first, and what it held
before. -/
theorem after_entries (client : Client) (operations : List Operation) :
    (client.after operations).history.entries =
      ((client.sights operations).filterMap Sight.recorded?).reverse ++ client.history.entries := by
  induction operations generalizing client with
  | nil => rfl
  | cons operation rest inductionHypothesis =>
      rw [after, inductionHypothesis, perform_entries, sights, List.filterMap_cons]
      cases (client.sight operation).recorded? with
      | none => rfl
      | some line =>
          dsimp only [Option.toList]
          rw [List.reverse_cons, List.append_assoc]

/-! ## Runs -/

/-- The history after a run is what was typed, and the cursor stays on it.

For every run of a new client: the entries are the submitted lines as they were
typed, newest first, but for empty lines and those answered by the hint that
arguments are missing; and the cursor is away or points at an entry.  A line that
is recorded goes in front, and the cursor and the draft are gone.  A line that is
not recorded leaves all three, and unless it is empty, the usage of its command
is shown.  Lines that are refused, lines of blanks and lines that ask for a
request are recorded, whether the queue takes the request or not.

Every recall key leaves the entries and shows the one at the cursor, or the draft
when the cursor is away. -/
theorem history_of_run (identity : Identity) (capacity : Nat) (operations : List Operation) :
    let started := start identity capacity
    let client := started.after operations
    client.history.entries = ((started.sights operations).filterMap Sight.recorded?).reverse ∧
    (forall index, client.history.cursor = some index ->
      index < client.history.entries.length) ∧
    (forall line, (client.sight (.submit line)).recorded? = some line ->
      (client.submit line).client.history =
        { entries := line :: client.history.entries, cursor := none, draft := "" }) ∧
    (forall line, (client.sight (.submit line)).recorded? = none ->
      (client.submit line).client.history = client.history ∧
      (line = "" ∨ Exists fun command : Command =>
        (client.submit line).shown = [.info ("Not enough arguments: " ++ command.usage)])) ∧
    (forall line, line ≠ "" ->
      ((client.verdict line).isFailure = true ∨
        (forall c, c ∈ line.toList -> Line.isBlank c = true) ∨
        (client.verdict line).request?.isSome = true) ->
      (client.sight (.submit line)).recorded? = some line) ∧
    (forall operation, operation.browses = true ->
      let history := (client.perform operation).client.history
      history.entries = client.history.entries ∧ Exists fun text =>
        (client.perform operation).answer = .field text ∧
        (history.cursor = none -> text = history.draft) ∧
        (forall index, history.cursor = some index -> history.entries[index]? = some text)) := by
  intro started client
  have inBounds : client.history.InBounds :=
    after_induction perform_inBounds started operations (History.inBounds_of_cursor_none rfl)
  refine ⟨?_, inBounds, ?_, ?_, ?_, ?_⟩
  · rw [after_entries]
    exact List.append_nil _
  · intro line recorded
    rw [submit_history, recorded]
    rfl
  · intro line unrecorded
    refine ⟨?_, ?_⟩
    · rw [submit_history, unrecorded]
    · by_cases empty : line = ""
      · exact Or.inl empty
      · rw [recorded?_of_typed client empty] at unrecorded
        rcases client.session.interpret_consumedOrHint client.roster line with
          ⟨clears, _⟩ | ⟨command, hints⟩
        · rw [verdict, clears] at unrecorded
          cases unrecorded
        · refine Or.inr ⟨command, ?_⟩
          rw [submit_of_typed client empty, verdict, hints]
          rfl
  · intro line typed included
    have clears : (client.verdict line).clearsInput = true := by
      rcases included with fails | blanks | asks
      · exact Outcome.clearsInput_of_isFailure fails
      · rw [client.verdict_of_blanks blanks]
        rfl
      · exact Outcome.clearsInput_of_request? asks
    rw [recorded?_of_typed client typed, clears]
    rfl
  · intro operation browses
    rcases perform_of_browses browses client with ⟨history, browsed, same, bounded⟩
    rw [browsed]
    exact ⟨same, history.field, rfl, History.field_of_cursor_none,
      fun index points => History.getElem?_of_cursor (bounded inBounds) points⟩

end Client
end CardTable
