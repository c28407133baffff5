import CardTable.Proofs.Client.FrameAccounting
import CardTable.Proofs.Frame.MessageData

namespace CardTable

/-!
# Order independence

Lines and frames reach the client in an order that nobody controls.  Most of the
time the order is of no consequence.  A frame that is only displayed touches
nothing but the counters, which no line reads, and no frame touches the history,
which is all that the recall keys read and move.

Two operations that neither disturb nor notice each other may change places.
That is a statement about two operations, for every client; what it means for a
run follows by induction on how the run is mixed from its two parts.  Every
mixture leaves the client that the one part leaves after the other, and what is
noticed of either part is what is noticed of it alone.
-/

/-- The last list is made up of the other two, each of them in its own order. -/
inductive Interleaved {Item : Type} : List Item -> List Item -> List Item -> Prop where
  | done : Interleaved [] [] []
  | first {item : Item} {firsts seconds run : List Item} :
      Interleaved firsts seconds run -> Interleaved (item :: firsts) seconds (item :: run)
  | second {item : Item} {firsts seconds run : List Item} :
      Interleaved firsts seconds run -> Interleaved firsts (item :: seconds) (item :: run)

namespace Interleaved

variable {Item : Type} {firsts seconds run : List Item}

theorem symm (mixed : Interleaved firsts seconds run) : Interleaved seconds firsts run := by
  induction mixed with
  | done => exact .done
  | first _ inductionHypothesis => exact .second inductionHypothesis
  | second _ inductionHypothesis => exact .first inductionHypothesis

/-- Of two parts that a test tells apart, the test gives back the first. -/
theorem filter_eq_first (mixed : Interleaved firsts seconds run) {test : Item -> Bool}
    (passes : forall item, item ∈ firsts -> test item = true)
    (fails : forall item, item ∈ seconds -> test item = false) : run.filter test = firsts := by
  induction mixed with
  | done => rfl
  | first _ inductionHypothesis =>
      rw [List.filter_cons_of_pos (passes _ List.mem_cons_self)]
      have others := inductionHypothesis
        (fun item member => passes item (List.mem_cons_of_mem _ member)) fails
      rw [others]
  | second _ inductionHypothesis =>
      rw [List.filter_cons_of_neg (Bool.eq_false_iff.mp (fails _ List.mem_cons_self))]
      exact inductionHypothesis passes
        (fun item member => fails item (List.mem_cons_of_mem _ member))

end Interleaved

namespace Frame

/-- A frame that is displayed at most: neither the hand and the play area, nor
options to choose from. -/
def displayOnly (raw : String) : Bool :=
  match read raw with
  | .ok (.update _ _) => false
  | .ok (.choices options) => options.isEmpty
  | _ => true

end Frame

namespace Client

namespace Operation

def isLine : Operation -> Bool
  | .submit _ => true
  | _ => false

def isFrame : Operation -> Bool
  | .receive _ => true
  | _ => false

/-- The keys that go through the history, and those that change the field. -/
def isRecall : Operation -> Bool
  | .up _ | .down | .escape | .key _ => true
  | _ => false

end Operation

/-- What is noticed, in a run, of the operations of one kind. -/
def sightsOf (kind : Operation -> Bool) (client : Client) (operations : List Operation) :
    List Sight :=
  (client.sights operations).filter fun sight => kind sight.operation

/-! ## Two operations that may change places -/

/-- In either order the two operations leave the same client, and neither is
noticed differently after the other. -/
structure Independent (one other : Operation) : Prop where
  commute : forall client : Client,
    ((client.perform one).client.perform other).client =
      ((client.perform other).client.perform one).client
  one_alone : forall client : Client, (client.perform other).client.sight one = client.sight one
  other_alone : forall client : Client, (client.perform one).client.sight other = client.sight other

theorem Independent.symm {one other : Operation} (independent : Independent one other) :
    Independent other one :=
  ⟨fun client => (independent.commute client).symm, independent.other_alone,
    independent.one_alone⟩

section Mixtures

variable {one : Operation} {others firsts seconds run : List Operation}

/-- An operation may be put behind a run of operations that it may change places
with. -/
theorem after_perform (independent : forall other, other ∈ others -> Independent one other)
    (client : Client) :
    (client.perform one).client.after others = ((client.after others).perform one).client := by
  induction others generalizing client with
  | nil => rfl
  | cons other rest inductionHypothesis =>
      have head := independent other List.mem_cons_self
      have tail := fun later member => independent later (List.mem_cons_of_mem _ member)
      rw [after, after, head.commute]
      exact inductionHypothesis tail _

/-- A run does not notice that such an operation came first. -/
theorem sights_perform (independent : forall other, other ∈ others -> Independent one other)
    (client : Client) : (client.perform one).client.sights others = client.sights others := by
  induction others generalizing client with
  | nil => rfl
  | cons other rest inductionHypothesis =>
      have head := independent other List.mem_cons_self
      have tail := fun later member => independent later (List.mem_cons_of_mem _ member)
      rw [sights, sights, head.other_alone, head.commute, inductionHypothesis tail]

variable (mixed : Interleaved firsts seconds run)
  (independent : forall one, one ∈ firsts -> forall other, other ∈ seconds -> Independent one other)

include mixed independent

/-- Every mixture leaves what the second part leaves after the first. -/
theorem after_interleaved (client : Client) :
    client.after run = (client.after firsts).after seconds := by
  induction mixed generalizing client with
  | done => rfl
  | first _ inductionHypothesis =>
      rw [after, after]
      exact inductionHypothesis
        (fun one member => independent one (List.mem_cons_of_mem _ member)) _
  | @second item firsts _ _ _ inductionHypothesis =>
      have pastFirsts : (client.perform item).client.after firsts =
          ((client.after firsts).perform item).client :=
        after_perform (fun one member => (independent one member item List.mem_cons_self).symm) client
      have rest := inductionHypothesis
        (fun one member other later => independent one member other (List.mem_cons_of_mem _ later))
        (client.perform item).client
      rw [after, rest, pastFirsts, after]

/-- What is noticed of a mixture is mixed, in the same way, from what is noticed
of the two parts alone. -/
theorem sights_interleaved (client : Client) :
    Interleaved (client.sights firsts) (client.sights seconds) (client.sights run) := by
  induction mixed generalizing client with
  | done => exact .done
  | @first item _ seconds _ _ inductionHypothesis =>
      have unnoticed : (client.perform item).client.sights seconds = client.sights seconds :=
        sights_perform (independent item List.mem_cons_self) client
      have rest := inductionHypothesis
        (fun one member => independent one (List.mem_cons_of_mem _ member))
        (client.perform item).client
      rw [unnoticed] at rest
      exact .first rest
  | @second item firsts _ _ _ inductionHypothesis =>
      have unnoticed : (client.perform item).client.sights firsts = client.sights firsts :=
        sights_perform (fun one member => (independent one member item List.mem_cons_self).symm) client
      have rest := inductionHypothesis
        (fun one member other later => independent one member other (List.mem_cons_of_mem _ later))
        (client.perform item).client
      rw [unnoticed] at rest
      exact .second rest

/-- What is noticed of the first part is what is noticed of it alone. -/
theorem sightsOf_interleaved {kind : Operation -> Bool}
    (ofKind : forall one, one ∈ firsts -> kind one = true)
    (ofOther : forall other, other ∈ seconds -> kind other = false) (client : Client) :
    client.sightsOf kind run = client.sights firsts :=
  (sights_interleaved mixed independent client).filter_eq_first
    (fun _ member => ofKind _ (operation_mem_of_mem_sights member))
    (fun _ member => ofOther _ (operation_mem_of_mem_sights member))

end Mixtures

/-- Two mixtures of parts that may change places leave the same client, and what
is noticed of either part is the same in both. -/
theorem alike_of_independent {firsts seconds one other : List Operation}
    {kind otherKind : Operation -> Bool}
    (independent : forall one, one ∈ firsts -> forall other, other ∈ seconds ->
      Independent one other)
    (firstsKind : forall one, one ∈ firsts -> kind one = true ∧ otherKind one = false)
    (secondsKind : forall other, other ∈ seconds -> kind other = false ∧ otherKind other = true)
    (mixed : Interleaved firsts seconds one) (otherMixed : Interleaved firsts seconds other)
    (client : Client) :
    client.after one = client.after other ∧
      client.sightsOf kind one = client.sightsOf kind other ∧
      client.sightsOf otherKind one = client.sightsOf otherKind other := by
  have swapped : forall other, other ∈ seconds -> forall one, one ∈ firsts ->
      Independent other one :=
    fun other member one former => (independent one former other member).symm
  have firstsAlone {run : List Operation} (run_mixed : Interleaved firsts seconds run) :
      client.sightsOf kind run = client.sights firsts :=
    sightsOf_interleaved run_mixed independent (fun one member => (firstsKind one member).1)
      (fun other member => (secondsKind other member).1) client
  have secondsAlone {run : List Operation} (run_mixed : Interleaved firsts seconds run) :
      client.sightsOf otherKind run = client.sights seconds :=
    sightsOf_interleaved run_mixed.symm swapped (fun other member => (secondsKind other member).2)
      (fun one member => (firstsKind one member).2) client
  refine ⟨?_, ?_, ?_⟩
  · rw [after_interleaved mixed independent, after_interleaved otherMixed independent]
  · rw [firstsAlone mixed, firstsAlone otherMixed]
  · rw [secondsAlone mixed, secondsAlone otherMixed]

/-! ## Lines and frames that are only displayed -/

theorem submit_stats (client : Client) (line : String) :
    (client.submit line).client.stats = client.stats :=
  congrArg (fun effect => effect.client.stats) (client.submit_withStats client.stats line)

/-- A frame that is only displayed moves a counter, and is displayed and logged
in the same way by every client. -/
theorem receive_of_displayOnly {frame : String} (quiet : Frame.displayOnly frame = true) :
    Exists fun shown => forall client : Client,
      client.receive frame =
        { client := { client with stats := client.stats.count (Frame.fate frame) }
          shown := shown
          log := Frame.records frame } := by
  unfold Frame.displayOnly at quiet
  unfold receive Frame.fate Frame.records
  cases content : Frame.read frame with
  | error fault => exact ⟨[], fun _ => rfl⟩
  | ok frame =>
      rw [content] at quiet
      cases frame with
      | message data => exact ⟨[.received data], fun _ => rfl⟩
      | update hand play => cases quiet
      | inspect card => exact ⟨[.inspect card], fun _ => rfl⟩
      | choices options =>
          have empty : options = [] := List.isEmpty_iff.mp quiet
          subst empty
          exact ⟨[], fun _ => rfl⟩
      | unknown kind => exact ⟨[], fun _ => rfl⟩

theorem submit_independent_receive (line : String) {frame : String}
    (quiet : Frame.displayOnly frame = true) : Independent (.submit line) (.receive frame) := by
  rcases receive_of_displayOnly quiet with ⟨shown, received⟩
  refine ⟨?_, ?_, ?_⟩
  · intro client
    have unread := client.submit_withStats (client.stats.count (Frame.fate frame)) line
    dsimp only [perform]
    rw [received (client.submit line).client, received client, unread, submit_stats]
  · intro client
    dsimp only [sight, perform]
    rw [received, submit_withStats]
  · intro client
    dsimp only [sight, perform]
    rw [received, received]

/-! ## Recall keys and frames -/

/-- A frame neither reads nor moves the history. -/
theorem receive_withHistory (client : Client) (history : History) (frame : String) :
    ({ client with history := history }).receive frame =
      { client.receive frame with
        client := { (client.receive frame).client with history := history } } := by
  unfold receive
  cases Frame.read frame with
  | error fault => rfl
  | ok content =>
      cases content with
      | choices options => cases options <;> rfl
      | _ => rfl

/-- A recall key reads and moves the history, and nothing else. -/
theorem perform_of_isRecall {operation : Operation} (recalls : operation.isRecall = true) :
    Exists fun move : History -> History => Exists fun answer : History -> Answer =>
      forall client : Client,
        client.perform operation =
          { client := { client with history := move client.history }
            answer := answer client.history } := by
  cases operation with
  | up field =>
      exact ⟨fun history => history.up field, fun history => .field (history.up field).field,
        fun _ => rfl⟩
  | down => exact ⟨History.down, fun history => .field history.down.field, fun _ => rfl⟩
  | escape => exact ⟨History.escape, fun history => .field history.escape.field, fun _ => rfl⟩
  | key field => exact ⟨fun history => history.typed field, fun _ => .done, fun _ => rfl⟩
  | _ => cases recalls

theorem recall_independent_receive {operation : Operation} (recalls : operation.isRecall = true)
    (frame : String) : Independent operation (.receive frame) := by
  rcases perform_of_isRecall recalls with ⟨move, answer, performed⟩
  have received (client : Client) :
      client.perform (.receive frame) = client.receive frame := rfl
  have kept (client : Client) : (client.receive frame).client.history = client.history :=
    (client.receive_frame frame).2.1
  refine ⟨?_, ?_, ?_⟩
  · intro client
    rw [received, received, performed, performed, receive_withHistory, kept]
  · intro client
    dsimp only [sight]
    rw [received, performed, performed, kept]
  · intro client
    dsimp only [sight]
    rw [received, received, performed, receive_withHistory]

/-! ## Runs -/

/-- The order in which lines and frames that are only displayed come in is of no
consequence, and neither is that of recall keys and frames of whatever kind.

For every client, two runs that mix the same lines with the same such frames
leave the same client, session, roster, history, counters and outbound queue
alike.  Every line has the same outcome in both and displays and logs the same,
and so does every frame.  The same holds for two runs that mix the same recall
keys, with what the field shows after each of them, with any frames. -/
theorem order_independence (client : Client) (frames : List String) :
    (forall (lines : List String) one other,
      (forall frame, frame ∈ frames -> Frame.displayOnly frame = true) ->
      Interleaved (lines.map .submit) (frames.map .receive) one ->
      Interleaved (lines.map .submit) (frames.map .receive) other ->
      client.after one = client.after other ∧
        client.sightsOf Operation.isLine one = client.sightsOf Operation.isLine other ∧
        client.sightsOf Operation.isFrame one = client.sightsOf Operation.isFrame other) ∧
    (forall keys one other, (forall key, key ∈ keys -> Operation.isRecall key = true) ->
      Interleaved keys (frames.map .receive) one ->
      Interleaved keys (frames.map .receive) other ->
      client.after one = client.after other ∧
        client.sightsOf Operation.isRecall one = client.sightsOf Operation.isRecall other ∧
        client.sightsOf Operation.isFrame one = client.sightsOf Operation.isFrame other) := by
  constructor
  · intro lines one other quiet mixed otherMixed
    refine alike_of_independent ?_ ?_ ?_ mixed otherMixed client
    · intro submission submitted arrival arrived
      rcases List.mem_map.mp submitted with ⟨line, _, rfl⟩
      rcases List.mem_map.mp arrived with ⟨frame, member, rfl⟩
      exact submit_independent_receive line (quiet frame member)
    · intro submission submitted
      rcases List.mem_map.mp submitted with ⟨line, _, rfl⟩
      exact ⟨rfl, rfl⟩
    · intro arrival arrived
      rcases List.mem_map.mp arrived with ⟨frame, _, rfl⟩
      exact ⟨rfl, rfl⟩
  · intro keys one other recalls mixed otherMixed
    refine alike_of_independent ?_ ?_ ?_ mixed otherMixed client
    · intro key member arrival arrived
      rcases List.mem_map.mp arrived with ⟨frame, _, rfl⟩
      exact recall_independent_receive (recalls key member) frame
    · intro key member
      refine ⟨recalls key member, ?_⟩
      have keyed := recalls key member
      cases key with
      | receive frame => cases keyed
      | _ => rfl
    · intro arrival arrived
      rcases List.mem_map.mp arrived with ⟨frame, _, rfl⟩
      exact ⟨rfl, rfl⟩

/-- A line of chat comes in before the first of two lines, or between them.  The
queue holds one message, so the second line is refused in both runs. -/
theorem order_of_chat :
    let client := start ⟨"ada", "den"⟩ 1
    let chat := "\x7b\"type\":\"message\",\"data\":\"hello\"\x7d"
    let one : List Operation := [.receive chat, .submit "say hi", .submit "draw"]
    let other : List Operation := [.submit "say hi", .receive chat, .submit "draw"]
    client.after one = client.after other ∧
      client.sightsOf Operation.isLine one = client.sightsOf Operation.isLine other ∧
      client.sightsOf Operation.isFrame one = client.sightsOf Operation.isFrame other := by
  intro client chat one other
  have words : Json.writeString "hello" = "\"hello\"".toList := by decide +kernel
  have spelled := Json.spells_writeString (Json.depthLimit - 1) "hello"
  rw [words] at spelled
  have written : chat = Frame.messageText "\"hello\"" := by decide +kernel
  have heard : Frame.read chat = .ok (.message "hello") := by
    rw [written]
    exact Frame.read_messageText spelled
  have quiet : forall frame, frame ∈ [chat] -> Frame.displayOnly frame = true := by
    intro frame member
    rw [List.mem_singleton.mp member, Frame.displayOnly, heard]
  exact (order_independence client [chat]).1 ["say hi", "draw"] one other quiet
    (.second (.first (.first .done))) (.first (.second (.first .done)))

end Client
end CardTable
