import CardTable.Proofs.Client.Run

namespace CardTable

/-!
# Accounting for frames

Every frame that arrives is counted once, under what became of it.  What that
is depends on the text of the frame alone, never on the client that receives
it, and so do the records that it leaves in the log.

A frame that cannot be read, or that is of no known type, is noticed by nobody
but the counters and the log.  No operation reads the counters, so a run with
such frames and the same run without them do the same in everything else.
-/

namespace Frame

/-- What becomes of a frame. -/
inductive Fate where
  | handled
  /-- It cannot be read. -/
  | malformed
  /-- It is of no known type. -/
  | unknown
  deriving DecidableEq, Repr

/-- The event under which such a frame is logged.  That a frame was handled is
not logged as such. -/
def Fate.event? : Fate -> Option String
  | handled => none
  | malformed => some "dropping inbound frame"
  | unknown => some "weird request"

/-- What becomes of a frame with this text. -/
def fate (raw : String) : Fate :=
  match read raw with
  | .error _ => .malformed
  | .ok (.unknown _) => .unknown
  | .ok _ => .handled

/-- The records that a frame leaves. -/
def records (raw : String) : List Record :=
  match read raw with
  | .error fault => [.frameDropped fault.toError]
  | .ok (.unknown _) => [.unknownFrame]
  | .ok (.choices []) => [.emptyChoicesIgnored]
  | .ok _ => []

end Frame

/-- The counters after one more frame with this fate. -/
def Stats.count (stats : Stats) : Frame.Fate -> Stats
  | .handled => { stats with handled := stats.handled + 1 }
  | .malformed => { stats with malformed := stats.malformed + 1 }
  | .unknown => { stats with unknown := stats.unknown + 1 }

/-- A record that is made for frames only. -/
def Record.aboutFrame : Record -> Bool
  | .frameDropped _ | .unknownFrame | .emptyChoicesIgnored => true
  | _ => false

/-- A record that is made for malformed and unknown frames only. -/
def Record.aboutLeftOut : Record -> Bool
  | .frameDropped _ | .unknownFrame => true
  | _ => false

/-- The three ways in which a frame can be taken, with the records of each. -/
theorem Frame.fate_cases (frame : String) :
    (Exists fun fault : Fault =>
      fate frame = .malformed ∧ records frame = [.frameDropped fault.toError]) ∨
    (fate frame = .unknown ∧ records frame = [.unknownFrame]) ∨
    (fate frame = .handled ∧ (records frame = [.emptyChoicesIgnored] ∨ records frame = [])) := by
  unfold fate records
  cases read frame with
  | error fault => exact Or.inl ⟨fault, rfl, rfl⟩
  | ok content =>
      cases content with
      | unknown kind => exact Or.inr (Or.inl ⟨rfl, rfl⟩)
      | choices options =>
          cases options with
          | nil => exact Or.inr (Or.inr ⟨rfl, Or.inl rfl⟩)
          | cons first others => exact Or.inr (Or.inr ⟨rfl, Or.inr rfl⟩)
      | _ => exact Or.inr (Or.inr ⟨rfl, Or.inr rfl⟩)

/-- A record tells which fate its frame had. -/
theorem Frame.record_cases {frame : String} {record : Record} (member : record ∈ records frame) :
    (Exists fun fault : Fault =>
      fate frame = .malformed ∧ record = .frameDropped fault.toError) ∨
    (fate frame = .unknown ∧ record = .unknownFrame) ∨
    (fate frame = .handled ∧ record = .emptyChoicesIgnored) := by
  rcases fate_cases frame with ⟨fault, fate, only⟩ | ⟨fate, only⟩ | ⟨fate, only | only⟩ <;>
    rw [only] at member
  · exact Or.inl ⟨fault, fate, List.mem_singleton.mp member⟩
  · exact Or.inr (Or.inl ⟨fate, List.mem_singleton.mp member⟩)
  · exact Or.inr (Or.inr ⟨fate, List.mem_singleton.mp member⟩)
  · cases member

theorem Frame.aboutFrame_of_mem {frame : String} {record : Record}
    (member : record ∈ records frame) : record.aboutFrame := by
  rcases record_cases member with ⟨fault, _, rfl⟩ | ⟨_, rfl⟩ | ⟨_, rfl⟩ <;> rfl

theorem Frame.aboutLeftOut_of_mem {frame : String} {record : Record}
    (member : record ∈ records frame) :
    record.aboutLeftOut = !decide (fate frame = .handled) := by
  rcases record_cases member with ⟨fault, fate, rfl⟩ | ⟨fate, rfl⟩ | ⟨fate, rfl⟩ <;>
    rw [fate] <;> rfl

/-- Only frames are logged under the event of a fate. -/
theorem Record.aboutFrame_of_event {record : Record} {fate : Frame.Fate}
    (named : fate.event? = some record.event) : record.aboutFrame := by
  cases record <;> cases fate <;> first | rfl | simp [Frame.Fate.event?, event] at named

/-- A frame is logged once under the event of its own fate, and never under
that of another. -/
theorem Frame.countP_records (frame : String) {name : String} {other : Fate}
    (named : other.event? = some name) :
    (records frame).countP (fun record => record.event = name) = [fate frame].count other := by
  rcases fate_cases frame with ⟨fault, fate, only⟩ | ⟨fate, only⟩ | ⟨fate, only | only⟩ <;>
    rw [only, fate] <;> cases other <;> cases named <;> rfl

namespace Client

/-- The counters after an operation. -/
def Operation.count (operation : Operation) (stats : Stats) : Stats :=
  match operation.frame? with
  | some frame => stats.count (Frame.fate frame)
  | none => stats

/-- The operation is anything but a frame that is malformed or unknown. -/
def Operation.kept (operation : Operation) : Bool :=
  match operation.frame? with
  | some frame => Frame.fate frame = .handled
  | none => true

/-- What an effect answers, if that is more than being done. -/
def Effect.answers (effect : Effect) : List Answer :=
  if effect.answer = .done then [] else [effect.answer]

/-- All that a run answers. -/
def answered (client : Client) (operations : List Operation) : List Answer :=
  (client.effects operations).flatMap Effect.answers

/-! ## One operation -/

theorem sendFor_withStats (client : Client) (stats : Stats) (outcome : Outcome) :
    ({ client with stats := stats }).sendFor outcome =
      { client.sendFor outcome with
        client := { (client.sendFor outcome).client with stats := stats } } := by
  unfold sendFor send
  dsimp only
  split
  · split <;> rfl
  · rfl

theorem record_withStats (client : Client) (stats : Stats) (line : String) (outcome : Outcome) :
    ({ client with stats := stats }).record line outcome =
      { client.record line outcome with stats := stats } := by
  unfold record
  split <;> rfl

/-- A submitted line neither reads nor moves the counters. -/
theorem submit_withStats (client : Client) (stats : Stats) (line : String) :
    ({ client with stats := stats }).submit line =
      { client.submit line with
        client := { (client.submit line).client with stats := stats } } := by
  by_cases empty : line = ""
  · rw [empty]
    rfl
  · rw [submit_of_typed _ empty, submit_of_typed client empty]
    dsimp only [verdict]
    generalize client.session.interpret client.roster line = interpreted
    have sent := sendFor_withStats { client with session := interpreted.2 } stats interpreted.1
    dsimp only at sent
    rw [sent, record_withStats]

/-- No operation reads the counters, and each frame moves them by its fate. -/
theorem perform_withStats (client : Client) (stats : Stats) (operation : Operation) :
    ({ client with stats := stats }).perform operation =
      { client.perform operation with
        client := { (client.perform operation).client with stats := operation.count stats } } := by
  cases operation with
  | submit line => exact client.submit_withStats stats line
  | receive frame =>
      simp only [perform, receive, Operation.count, Operation.frame?, Frame.fate]
      cases Frame.read frame with
      | error fault => rfl
      | ok content =>
        cases content with
        | choices options => cases options <;> rfl
        | _ => rfl
  | identity player room =>
      dsimp only [perform, logIn]
      split <;> rfl
  | _ => rfl

/-- A frame leaves its own records, in whatever client it arrives. -/
theorem receive_log (client : Client) (frame : String) :
    (client.receive frame).log = Frame.records frame := by
  simp only [receive, Frame.records]
  cases Frame.read frame with
  | error fault => rfl
  | ok content =>
    cases content with
    | choices options => cases options <;> rfl
    | _ => rfl

/-- Of the records of an operation, those about frames are those of its frame. -/
theorem perform_log (client : Client) (operation : Operation) :
    (client.perform operation).log.filter Record.aboutFrame =
      match operation.frame? with
      | some frame => Frame.records frame
      | none => [] := by
  cases operation with
  | submit line =>
      refine List.filter_eq_nil_iff.mpr fun record member => ?_
      rcases submit_log member with ⟨cause, rfl⟩ | rfl | ⟨command, rfl⟩ <;>
        exact Bool.false_ne_true
  | receive frame =>
      rw [perform, receive_log]
      refine List.filter_eq_self.mpr fun record member => ?_
      exact Frame.aboutFrame_of_mem member
  | identity player room =>
      dsimp only [perform, logIn]
      split <;> rfl
  | _ => rfl

/-- An operation that is kept leaves no record about a frame that is left out,
and any other leaves nothing else. -/
theorem aboutLeftOut_of_mem (client : Client) (operation : Operation) {record : Record}
    (member : record ∈ (client.perform operation).log) :
    record.aboutLeftOut = !operation.kept := by
  cases operation with
  | submit line =>
      rcases submit_log member with ⟨cause, rfl⟩ | rfl | ⟨command, rfl⟩ <;> rfl
  | receive frame =>
      rw [perform, receive_log] at member
      exact Frame.aboutLeftOut_of_mem member
  | identity player room =>
      dsimp only [perform, logIn] at member
      split at member
      · rw [List.mem_singleton.mp member]
        rfl
      · cases member
  | _ => cases member

/-- A frame that is not handled moves a counter and leaves its record, and does
nothing else at all. -/
theorem perform_of_not_kept (client : Client) {operation : Operation}
    (notKept : operation.kept = false) :
    client.perform operation =
      { client := { client with stats := operation.count client.stats }
        log := (client.perform operation).log } := by
  cases operation with
  | receive frame =>
      have notHandled : Frame.fate frame ≠ .handled := of_decide_eq_false notKept
      unfold Frame.fate at notHandled
      simp only [perform, receive, Operation.count, Operation.frame?, Frame.fate]
      cases read : Frame.read frame with
      | error fault => rfl
      | ok content =>
        rw [read] at notHandled
        cases content with
        | unknown kind => rfl
        | _ => cases notHandled rfl
  | _ => cases notKept

/-! ## The count of a run -/

/-- The counters after a run. -/
def tally (stats : Stats) (operations : List Operation) : Stats :=
  operations.foldl (fun stats operation => operation.count stats) stats

theorem after_withStats (client : Client) (stats : Stats) (operations : List Operation) :
    ({ client with stats := stats }).after operations =
      { client.after operations with stats := tally stats operations } := by
  induction operations generalizing client stats with
  | nil => rfl
  | cons operation rest inductionHypothesis =>
      rw [after, perform_withStats]
      exact inductionHypothesis _ _

/-- Every frame of a run adds one to the counter of its fate. -/
theorem tally_eq (stats : Stats) (operations : List Operation) :
    tally stats operations =
      let fates := (received operations).map Frame.fate
      { handled := stats.handled + fates.count .handled
        malformed := stats.malformed + fates.count .malformed
        unknown := stats.unknown + fates.count .unknown } := by
  induction operations generalizing stats with
  | nil => rfl
  | cons operation rest inductionHypothesis =>
      rw [tally, List.foldl_cons, ← tally, inductionHypothesis]
      cases frame : operation.frame? with
      | none => simp only [Operation.count, received, List.filterMap_cons, frame]
      | some text =>
          simp only [Operation.count, received, List.filterMap_cons, frame, List.map_cons]
          cases Frame.fate text <;> simp [Stats.count, Nat.add_comm, Nat.add_left_comm]

theorem after_stats (client : Client) (operations : List Operation) :
    (client.after operations).stats =
      let fates := (received operations).map Frame.fate
      { handled := client.stats.handled + fates.count .handled
        malformed := client.stats.malformed + fates.count .malformed
        unknown := client.stats.unknown + fates.count .unknown } := by
  rw [← tally_eq]
  exact congrArg Client.stats (client.after_withStats client.stats operations)

/-- The three fates are all there are. -/
theorem count_fates (fates : List Frame.Fate) :
    fates.count .handled + fates.count .malformed + fates.count .unknown = fates.length := by
  induction fates with
  | nil => rfl
  | cons fate rest inductionHypothesis =>
      rw [List.length_cons, ← inductionHypothesis]
      cases fate <;> simp <;> omega

/-- The records about frames in the log of a run are those of its frames, in
the order in which the frames arrived. -/
theorem logged_aboutFrame (client : Client) (operations : List Operation) :
    (client.logged operations).filter Record.aboutFrame =
      (received operations).flatMap Frame.records := by
  induction operations generalizing client with
  | nil => rfl
  | cons operation rest inductionHypothesis =>
      have later := inductionHypothesis (client.perform operation).client
      rw [logged] at later ⊢
      rw [effects, List.flatMap_cons, List.filter_append, later, perform_log]
      cases frame : operation.frame? with
      | none => simp only [received, List.filterMap_cons, frame, List.nil_append]
      | some text => simp only [received, List.filterMap_cons, frame, List.flatMap_cons]

/-- The event of a fate is logged as often as there are frames with that fate. -/
theorem countP_logged (client : Client) (operations : List Operation) {name : String}
    {fate : Frame.Fate} (named : fate.event? = some name) :
    (client.logged operations).countP (fun record => record.event = name) =
      ((received operations).map Frame.fate).count fate := by
  have framesOnly : (client.logged operations).countP (fun record => record.event = name) =
      ((client.logged operations).filter Record.aboutFrame).countP
        (fun record => record.event = name) := by
    rw [List.countP_filter]
    refine List.countP_congr fun record _ => ?_
    rw [Bool.and_eq_true]
    refine ⟨fun holds => ⟨holds, ?_⟩, And.left⟩
    apply Record.aboutFrame_of_event
    rw [of_decide_eq_true holds]
    exact named
  rw [framesOnly, logged_aboutFrame]
  induction received operations with
  | nil => rfl
  | cons frame rest inductionHypothesis =>
      rw [List.flatMap_cons, List.countP_append, Frame.countP_records frame named,
        inductionHypothesis, ← List.count_append]
      rfl

/-- A frame that is logged as dropped is logged with the code for it. -/
theorem code_of_dropped (client : Client) (operations : List Operation) {record : Record}
    (member : record ∈ client.logged operations)
    (dropped : record.event = "dropping inbound frame") :
    record.code?.map ErrorCode.label = some "MALFORMED_INBOUND" := by
  have named : Frame.Fate.malformed.event? = some record.event := congrArg some dropped.symm
  have ofFrames := List.mem_filter.mpr ⟨member, Record.aboutFrame_of_event named⟩
  rw [logged_aboutFrame] at ofFrames
  rcases List.mem_flatMap.mp ofFrames with ⟨frame, _, among⟩
  rcases Frame.record_cases among with ⟨fault, _, rfl⟩ | ⟨_, rfl⟩ | ⟨_, rfl⟩
  · rfl
  · exact absurd dropped (by decide)
  · exact absurd dropped (by decide)

/-! ## A run without the frames that were not handled -/

/-- A run and the same run without them leave clients that differ in the
counters only, from clients that differ in the counters only. -/
theorem after_kept (client : Client) (stats : Stats) (operations : List Operation) :
    ({ client with stats := stats }).after (operations.filter Operation.kept) =
      { client.after operations with
        stats := tally stats (operations.filter Operation.kept) } := by
  induction operations generalizing client stats with
  | nil => rfl
  | cons operation rest inductionHypothesis =>
      cases isKept : operation.kept with
      | true =>
          rw [List.filter_cons_of_pos isKept, after, perform_withStats]
          exact inductionHypothesis _ _
      | false =>
          rw [List.filter_cons_of_neg (Bool.eq_false_iff.mp isKept), after,
            client.perform_of_not_kept isKept]
          exact inductionHypothesis { client with stats := operation.count client.stats } stats

/-- Two observers see the same in the two runs, unless they look at the client,
if they agree on every operation that is kept and the observer of the longer
run sees nothing of the others. -/
theorem effects_kept {Sight : Type} (see seeLonger : Effect -> List Sight)
    (notClient : forall effect client, see { effect with client := client } = see effect)
    (agree : forall (client : Client) operation, operation.kept = true ->
      see (client.perform operation) = seeLonger (client.perform operation))
    (overlook : forall (client : Client) operation, operation.kept = false ->
      seeLonger (client.perform operation) = [])
    (client : Client) (stats : Stats) (operations : List Operation) :
    (({ client with stats := stats }).effects (operations.filter Operation.kept)).flatMap see =
      (client.effects operations).flatMap seeLonger := by
  induction operations generalizing client stats with
  | nil => rfl
  | cons operation rest inductionHypothesis =>
      rw [effects, List.flatMap_cons]
      cases isKept : operation.kept with
      | true =>
          rw [List.filter_cons_of_pos isKept, effects, List.flatMap_cons, perform_withStats,
            notClient, agree client operation isKept]
          exact congrArg (seeLonger _ ++ ·) (inductionHypothesis _ _)
      | false =>
          rw [List.filter_cons_of_neg (Bool.eq_false_iff.mp isKept),
            overlook client operation isKept, List.nil_append,
            client.perform_of_not_kept isKept]
          exact inductionHypothesis { client with stats := operation.count client.stats } stats

theorem received_kept (operations : List Operation) :
    received (operations.filter Operation.kept) =
      (received operations).filter fun frame => Frame.fate frame = .handled := by
  rw [received, received, List.filterMap_filter, List.filter_filterMap]
  congr 1
  funext operation
  cases operation with
  | receive frame =>
      rw [Operation.frame?, Option.filter_some]
      rfl
  | _ => rfl

theorem displayed_kept (client : Client) (stats : Stats) (operations : List Operation) :
    ({ client with stats := stats }).displayed (operations.filter Operation.kept) =
      client.displayed operations := by
  refine effects_kept Effect.shown Effect.shown (fun _ _ => rfl) (fun _ _ _ => rfl) ?_
    client stats operations
  intro client operation leftOut
  rw [client.perform_of_not_kept leftOut]

theorem answered_kept (client : Client) (stats : Stats) (operations : List Operation) :
    ({ client with stats := stats }).answered (operations.filter Operation.kept) =
      client.answered operations := by
  refine effects_kept Effect.answers Effect.answers (fun _ _ => rfl) (fun _ _ _ => rfl) ?_
    client stats operations
  intro client operation leftOut
  rw [client.perform_of_not_kept leftOut]
  rfl

theorem logged_kept (client : Client) (stats : Stats) (operations : List Operation) :
    ({ client with stats := stats }).logged (operations.filter Operation.kept) =
      (client.logged operations).filter fun record => !record.aboutLeftOut := by
  rw [logged, logged, List.filter_flatMap]
  refine effects_kept Effect.log _ (fun _ _ => rfl) ?_ ?_ client stats operations
  · intro client operation kept
    refine (List.filter_eq_self.mpr fun record member => ?_).symm
    rw [client.aboutLeftOut_of_mem operation member, kept]
    rfl
  · intro client operation leftOut
    refine List.filter_eq_nil_iff.mpr fun record member => ?_
    rw [client.aboutLeftOut_of_mem operation member, leftOut]
    exact Bool.false_ne_true

/-- The run without them moves the count of handled frames only, and as far. -/
theorem tally_kept (stats : Stats) (operations : List Operation) :
    tally stats (operations.filter Operation.kept) =
      { stats with
        handled := stats.handled + ((received operations).map Frame.fate).count .handled } := by
  have fates : (received (operations.filter Operation.kept)).map Frame.fate =
      ((received operations).map Frame.fate).filter fun fate => fate = .handled := by
    rw [received_kept, List.filter_map]
    rfl
  have none (fate : Frame.Fate) (other : fate ≠ .handled) :
      (((received operations).map Frame.fate).filter fun fate => fate = .handled).count fate =
        0 :=
    List.count_eq_zero_of_not_mem fun member =>
      other (of_decide_eq_true (List.mem_filter.mp member).2)
  rw [tally_eq, fates]
  dsimp only
  rw [none .malformed Frame.Fate.noConfusion, none .unknown Frame.Fate.noConfusion,
    List.count_filter (by rfl)]
  rfl

/-- Every frame is counted once, and frames that are malformed or unknown do
nothing that can be noticed.

For every run of a new client: the three counters add up to the number of
frames, so that none outgrows 64 bits before that many frames have come, and
each counts the frames of its fate.  As many frames are logged as dropped as
cannot be read, always under the same code, and as many as weird as are of no
known type.  An empty list of options only moves the count and is logged.

The run without the malformed and the unknown frames leaves the same client but
for their two counters, answers and displays the same, and logs the same but
for their records.  No frame at all touches the history, the identity or the
outbound queue. -/
theorem frame_accounting (identity : Identity) (capacity : Nat) (operations : List Operation) :
    let started := start identity capacity
    let stats := (started.after operations).stats
    let fates := (received operations).map Frame.fate
    let log := started.logged operations
    let kept := operations.filter Operation.kept
    stats.handled + stats.malformed + stats.unknown = (received operations).length ∧
    stats.handled = fates.count .handled ∧
    stats.malformed = fates.count .malformed ∧
    stats.unknown = fates.count .unknown ∧
    log.countP (fun record => record.event = "dropping inbound frame") = fates.count .malformed ∧
    (forall record, record ∈ log -> record.event = "dropping inbound frame" ->
      record.code?.map ErrorCode.label = some "MALFORMED_INBOUND") ∧
    log.countP (fun record => record.event = "weird request") = fates.count .unknown ∧
    (forall (client : Client) frame, Frame.read frame = .ok (.choices []) ->
      Frame.fate frame = .handled ∧
      client.receive frame = { client := client.countHandled, log := [.emptyChoicesIgnored] }) ∧
    started.after kept =
      { started.after operations with
        stats := { handled := stats.handled, malformed := 0, unknown := 0 } } ∧
    started.displayed kept = started.displayed operations ∧
    started.answered kept = started.answered operations ∧
    started.logged kept = log.filter (fun record => !record.aboutLeftOut) ∧
    (forall (client : Client) frame,
      (client.receive frame).client.history = client.history ∧
      (client.receive frame).client.session.identity = client.session.identity ∧
      (client.receive frame).client.outbox = client.outbox) := by
  intro started stats fates log kept
  have counted : stats = ⟨fates.count .handled, fates.count .malformed, fates.count .unknown⟩ := by
    have moved := started.after_stats operations
    simp only [started, start, Nat.zero_add] at moved
    exact moved
  refine ⟨?_, ?_, ?_, ?_, ?_, ?_, ?_, ?_, ?_, started.displayed_kept {} operations,
    started.answered_kept {} operations, started.logged_kept {} operations,
    fun client frame => (client.receive_frame frame).2⟩
  · rw [counted]
    exact (count_fates fates).trans (List.length_map Frame.fate)
  · rw [counted]
  · rw [counted]
  · rw [counted]
  · exact started.countP_logged operations rfl
  · exact fun record member => started.code_of_dropped operations member
  · exact started.countP_logged operations rfl
  · intro client frame empty
    constructor
    · rw [Frame.fate, empty]
    · rw [receive, empty]
      rfl
  · have shorter := started.after_kept {} operations
    rw [tally_kept, Nat.zero_add] at shorter
    rw [counted]
    exact shorter

end Client
end CardTable
