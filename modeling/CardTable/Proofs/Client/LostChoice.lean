import CardTable.Proofs.Client.Delivery
import CardTable.Proofs.Frame.WrittenOptions
import CardTable.Proofs.Line.Quoting

namespace CardTable

/-!
# A choice whose answer is not sent

A line that picks an option ends the choice in the session before its request is
offered to the queue.  When the queue refuses the request, the choice is over
all the same: the server has no answer, and the options cannot be picked again.

This is the one way in which a pending choice is lost.  A line that picks
nothing leaves the session alone, and a picked option reaches the queue whenever
there is room in it.
-/

namespace Session

theorem interpret_empty (session : Session) (roster : Roster) :
    session.interpret roster "" = (.failure (.unknownCommand ""), session) := by
  rw [interpret, Line.tokenize_empty]

end Session

namespace Client

/-- The line picks an option of the pending choice. -/
def Picks (client : Client) (line : String) : Prop :=
  Exists fun which : UInt64 =>
    (client.verdict line).request? = some (.choose client.session.identity.player which)

/-- Submitting the line puts a request on the queue that picks one of the
options. -/
def Answers (client : Client) (line : String) (options : Options) : Prop :=
  Exists fun which : UInt64 =>
    1 ≤ which.toNat ∧ which.toNat ≤ options.toList.length ∧
      (client.submit line).client.outbox.queued =
        client.outbox.queued ++ [(Request.choose client.session.identity.player which).wire]

/-- Once the line is submitted, the options can still be picked. -/
def StaysPending (client : Client) (line : String) (options : Options) : Prop :=
  (client.submit line).client.session.mode = .choosing options

section Submission

variable {client : Client} {line : String} {options : Options}

theorem typed_of_request? {request : Request}
    (asks : (client.verdict line).request? = some request) : line ≠ "" := by
  rintro rfl
  rw [verdict, Session.interpret_empty] at asks
  cases asks

/-- Whether it is empty or not, a submitted line does to the session what its
interpretation does. -/
theorem session_of_submit (client : Client) (line : String) :
    (client.submit line).client.session =
      (client.session.interpret client.roster line).2 := by
  by_cases empty : line = ""
  · rw [empty, submit_empty, Session.interpret_empty]
  · exact client.submit_session empty

/-- While a choice is pending, a line picks one of the options and ends the
choice in the session, or it picks nothing and the session stays. -/
theorem picks_cases (pending : client.session.mode = .choosing options) (line : String) :
    (Exists fun which : UInt64 =>
      1 ≤ which.toNat ∧ which.toNat ≤ options.toList.length ∧
        (client.verdict line).request? =
          some (.choose client.session.identity.player which) ∧
        (client.submit line).client.session = client.session.clear) ∨
    (¬ client.Picks line ∧ (client.submit line).client.session = client.session) := by
  rw [session_of_submit]
  rcases client.session.interpret_cases client.roster line with
    ⟨offered, which, mode, positive, bounded, picked⟩ | ⟨same, within⟩
  · have offeredOptions : offered = options := by
      rw [pending] at mode
      exact (Mode.choosing.inj mode).symm
    subst offeredOptions
    refine Or.inl ⟨which, positive, bounded, ?_, ?_⟩
    · rw [verdict, picked]
      rfl
    · rw [picked]
  · refine Or.inr ⟨?_, same⟩
    rintro ⟨which, asks⟩
    have permits := within.2 _ asks
    cases permits.answersChoice

/-- A choice that is over is not pending. -/
theorem not_staysPending_of_clear
    (cleared : (client.submit line).client.session = client.session.clear) :
    ¬ client.StaysPending line options := by
  intro stays
  rw [StaysPending, cleared] at stays
  cases stays

/-- A queue that stays as it is has not taken an answer. -/
theorem not_answers_of_same
    (same : (client.submit line).client.outbox = client.outbox) :
    ¬ client.Answers line options := by
  rintro ⟨which, _, _, added⟩
  rw [same] at added
  exact List.cons_ne_nil _ _ (List.self_eq_append_right.mp added)

/-- A pending choice is lost by a line exactly when the line picks an option and
the queue does not take the request.

For every client with a pending choice: a line that picks nothing leaves the
session as it is, so the options can still be picked; a line that picks an
option ends the choice, and puts the answer on the queue when there is room.
Without room the queue stays as it is, and the player is told that the request
was not sent, but the choice is over. -/
theorem choice_lost_iff (pending : client.session.mode = .choosing options) (line : String) :
    (¬ (client.Answers line options ∨ client.StaysPending line options) ↔
      client.Picks line ∧ ¬ client.outbox.HasRoom) ∧
    (¬ client.Picks line -> (client.submit line).client.session = client.session) ∧
    (client.Picks line ->
      (client.submit line).client.session = client.session.clear ∧
      (client.outbox.HasRoom -> client.Answers line options) ∧
      (¬ client.outbox.HasRoom ->
        (client.submit line).client.outbox = client.outbox ∧
        (client.submit line).shown =
          [.line (">>> " ++ line), .line "### Can't send to closed socket"])) := by
  rcases picks_cases pending line with ⟨which, positive, bounded, asks, cleared⟩ | ⟨none, same⟩
  · have typed : line ≠ "" := typed_of_request? asks
    have picks : client.Picks line := ⟨which, asks⟩
    have taken (room : client.outbox.HasRoom) : client.Answers line options := by
      refine ⟨which, positive, bounded, ?_⟩
      rw [(submit_of_hasRoom typed asks room).1]
    have refused (noRoom : ¬ client.outbox.HasRoom) := submit_of_not_hasRoom typed asks noRoom
    refine ⟨?_, fun picksNone => absurd picks picksNone, fun _ => ⟨cleared, taken, ?_⟩⟩
    · constructor
      · exact fun lost => ⟨picks, fun room => lost (Or.inl (taken room))⟩
      · rintro ⟨_, noRoom⟩ (answers | stays)
        · exact not_answers_of_same (refused noRoom).1 answers
        · exact not_staysPending_of_clear cleared stays
    · exact fun noRoom => ⟨(refused noRoom).1, (refused noRoom).2.1⟩
  · have stays : client.StaysPending line options := by
      rw [StaysPending, same]
      exact pending
    refine ⟨?_, fun _ => same, fun picks => absurd picks none⟩
    constructor
    · exact fun lost => absurd (Or.inr stays) lost
    · exact fun picked => absurd picked.1 none

end Submission

/-! ## A queue of one -/

/-- Two options are offered, and a request for a card fills the queue. -/
def crowded : Client :=
  (start ⟨"ada", "den"⟩ 1).after
    [.receive "\x7b\"type\":\"choices\",\"choices\":[\"Attack\",\"Defend\"]\x7d",
      .submit "inspect hand 0"]

theorem crowded_eq :
    crowded =
      { session := ⟨⟨"ada", "den"⟩, .choosing ⟨"Attack", ["Defend"]⟩⟩
        history := { entries := ["inspect hand 0"] }
        stats := { handled := 1 }
        outbox :=
          { capacity := 1
            queued := [(Request.inspect "ada" "ada.hand" 0).wire] } } := by
  have written : "\x7b\"type\":\"choices\",\"choices\":[\"Attack\",\"Defend\"]\x7d" =
      Frame.choicesText ["Attack", "Defend"] := by
    decide +kernel
  rw [crowded, after, perform, receive, written, Frame.read_choicesText]
  decide +kernel

theorem crowded_pending : crowded.session.mode = .choosing ⟨"Attack", ["Defend"]⟩ := by
  rw [crowded_eq]

theorem crowded_picks : crowded.Picks "2" := by
  refine ⟨2, ?_⟩
  rw [crowded_eq]
  decide +kernel

theorem crowded_full : ¬ crowded.outbox.HasRoom := by
  rw [crowded_eq]
  decide

/-- The second option is picked, its request is refused, and nothing is pending
any more. -/
theorem choice_lost_crowded :
    crowded.session.mode = .choosing ⟨"Attack", ["Defend"]⟩ ∧
      (crowded.submit "2").client.session.mode = .normal ∧
      (crowded.submit "2").client.outbox = crowded.outbox := by
  have lost := (choice_lost_iff crowded_pending "2").2.2 crowded_picks
  refine ⟨crowded_pending, ?_, (lost.2.2 crowded_full).1⟩
  rw [lost.1]
  rfl

/-- Not every line that is submitted while a choice is pending answers the
choice or leaves it pending. -/
theorem not_answers_or_staysPending :
    ¬ forall (identity : Identity) (capacity : Nat) (operations : List Operation)
      (options : Options) (line : String),
      ((start identity capacity).after operations).session.mode = .choosing options ->
        ((start identity capacity).after operations).Answers line options ∨
          ((start identity capacity).after operations).StaysPending line options := by
  intro kept
  have same : (crowded.submit "2").client.outbox = crowded.outbox := by
    rw [crowded_eq]
    decide +kernel
  have cleared : (crowded.submit "2").client.session = crowded.session.clear := by
    rw [crowded_eq]
    decide +kernel
  rcases kept ⟨"ada", "den"⟩ 1 _ ⟨"Attack", ["Defend"]⟩ "2" crowded_pending with answers | stays
  · exact not_answers_of_same same answers
  · exact not_staysPending_of_clear cleared stays

end Client
end CardTable
