import CardTable.Proofs.Client.Run
import CardTable.Proofs.Line.Quoting
import CardTable.Proofs.Roster.Marks
import CardTable.Proofs.Session.OwnHand

namespace CardTable

/-!
# Who is in the game during a run

The roster is drawn anew by every update that is accepted, and by nothing else.
So it depends on the last such update of a run alone: who is in the game is read
off that play area, whatever the updates before it said and whatever came after.

A card played to somebody goes to the play area of that player if the roster
knows the name, and to an area with that very name otherwise.
-/

namespace Frame

/-- The play area of a frame that is accepted as an update. -/
def play? (raw : String) : Option String :=
  match read raw with
  | .ok (.update _ play) => some play
  | _ => none

end Frame

namespace Client

/-- The play area of an update that an operation brings. -/
def Operation.play? (operation : Operation) : Option String :=
  operation.frame?.bind Frame.play?

/-- The play areas of the updates that a run brings, in order. -/
def plays (operations : List Operation) : List String :=
  operations.filterMap Operation.play?

/-- The last update of the run that is accepted marks the name as that of a
player. -/
def InGame (operations : List Operation) (name : String) : Prop :=
  Exists fun play =>
    (plays operations).getLast? = some play ∧ Roster.IsMarkable name ∧ Roster.Marks play name

/-! ## The roster -/

theorem submit_roster (client : Client) (line : String) :
    (client.submit line).client.roster = client.roster := by
  by_cases empty : line = ""
  · rw [empty, submit_empty]
  · rw [submit_of_typed client empty]
    dsimp only
    rw [record_client, sendFor_client]

theorem receive_roster (client : Client) (frame : String) :
    (client.receive frame).client.roster =
      ((Frame.play? frame).map Roster.ofPlay).getD client.roster := by
  unfold receive Frame.play?
  cases Frame.read frame with
  | error fault => rfl
  | ok content =>
      cases content with
      | choices options => cases options <;> rfl
      | _ => rfl

/-- An accepted update draws the roster anew, and no other operation touches
it. -/
theorem perform_roster (client : Client) (operation : Operation) :
    (client.perform operation).client.roster =
      (operation.play?.map Roster.ofPlay).getD client.roster := by
  cases operation with
  | submit line => exact client.submit_roster line
  | receive frame => exact client.receive_roster frame
  | identity player room =>
      dsimp only [perform, logIn]
      split <;> rfl
  | _ => rfl

/-- An update is accepted exactly when it is displayed. -/
theorem play?_eq_some_iff (client : Client) (operation : Operation) (play : String) :
    operation.play? = some play ↔
      Exists fun hand => Shown.update hand play ∈ (client.perform operation).shown := by
  have without {shown : List Shown} (brought : operation.play? = none)
      (none : forall hand, Shown.update hand play ∉ shown) :
      operation.play? = some play ↔ Exists fun hand => Shown.update hand play ∈ shown := by
    refine iff_of_false ?_ fun ⟨hand, member⟩ => none hand member
    rw [brought]
    intro impossible
    cases impossible
  cases operation with
  | submit line =>
      refine without rfl ?_
      intro hand member
      rcases submit_shown member with ⟨_, other⟩ | ⟨_, other⟩ | other <;> cases other
  | receive frame =>
      dsimp only [Operation.play?, Operation.frame?, Option.bind_some, perform]
      unfold receive Frame.play?
      cases Frame.read frame with
      | error fault => simp
      | ok content =>
          cases content with
          | update hand drawn => simp [accept, eq_comm]
          | choices options =>
              cases options <;> simp [accept, offer, Session.present?, Options.ofList?]
          | _ => simp [accept]
  | identity player room =>
      refine without rfl ?_
      intro hand
      dsimp only [perform, logIn]
      split <;> exact List.not_mem_nil
  | _ => exact without rfl fun _ => List.not_mem_nil

/-- After a run the roster is that of the last accepted update, if there is
one. -/
theorem after_roster (client : Client) (operations : List Operation) :
    (client.after operations).roster =
      ((plays operations).getLast?.map Roster.ofPlay).getD client.roster := by
  induction operations generalizing client with
  | nil => rfl
  | cons operation rest inductionHypothesis =>
      rw [after, inductionHypothesis, perform_roster]
      cases brought : operation.play? with
      | none =>
          have same : plays (operation :: rest) = plays rest := List.filterMap_cons_none brought
          rw [same]
          rfl
      | some play =>
          have more : plays (operation :: rest) = play :: plays rest :=
            List.filterMap_cons_some brought
          rw [more, List.getLast?_cons]
          cases (plays rest).getLast? <;> rfl

theorem isActive_after_iff (identity : Identity) (capacity : Nat) (operations : List Operation)
    (name : String) :
    ((start identity capacity).after operations).roster.isActive name = true ↔
      InGame operations name := by
  rw [after_roster, InGame]
  cases (plays operations).getLast? with
  | none =>
      constructor
      · intro impossible
        cases impossible
      · rintro ⟨_, impossible, _⟩
        cases impossible
  | some play =>
      dsimp only [Option.map_some, Option.getD_some]
      rw [Roster.isActive_ofPlay_iff]
      constructor
      · exact fun marked => ⟨play, rfl, marked⟩
      · rintro ⟨_, same, marked⟩
        cases same
        exact marked

/-! ## Runs -/

/-- The players in the game are the names that the last accepted update marks.

For every run of a new client: a name is that of a player exactly when it is not
empty, has no angle bracket that opens a tag, and stands between the two marking
texts somewhere in the play area of the last accepted update.  An update is
accepted when it is displayed, and an operation that brings none leaves the
roster as it is.

In the normal mode a card played with a valid index goes to the play area of the
player whose name is typed, exactly when the name has no dot and belongs to a
player in the game.  Otherwise it goes to the area that is typed. -/
theorem active_players (identity : Identity) (capacity : Nat) (operations : List Operation) :
    let client := (start identity capacity).after operations
    (forall name, client.roster.isActive name = true ↔ InGame operations name) ∧
    (forall operation play, operation.play? = some play ↔
      Exists fun hand => Shown.update hand play ∈ (client.perform operation).shown) ∧
    (forall operation, operation.play? = none ->
      (client.perform operation).client.roster = client.roster) ∧
    (forall line word index dst value, client.session.mode = .normal ->
      Line.tokenize line = .ok [word, index, dst] -> Command.ofWord? word = some .play ->
      readIndex index = .ok value ->
      Exists fun target =>
        (client.submit line).built? =
          some (.move client.session.identity.player client.session.identity.hand value target) ∧
        (target = dst ++ ".play" ↔ '.' ∉ dst.toList ∧ InGame operations dst) ∧
        (target ≠ dst ++ ".play" -> target = dst)) := by
  intro client
  have known := isActive_after_iff identity capacity operations
  refine ⟨known, client.play?_eq_some_iff, ?_, ?_⟩
  · intro operation noUpdate
    rw [perform_roster, noUpdate]
    rfl
  · intro line word index dst value normal tokens played read
    refine ⟨Command.playTarget client.roster dst, ?_, ?_, Command.playTarget_of_ne⟩
    · rw [client.submit_built? (Line.ne_empty_of_tokenize tokens),
        verdict_of_command normal tokens played, Command.play_request?_iff]
      exact ⟨index, dst, value, rfl, read, rfl⟩
    · rw [Command.playTarget_eq_iff, known]

end Client
end CardTable
