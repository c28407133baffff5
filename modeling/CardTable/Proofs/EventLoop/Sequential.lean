import CardTable.EventLoop
import CardTable.Proofs.Client.Run

namespace CardTable

/-!
# The loop as a sequence of operations

The loop looks at two queues again and again, and either may be closed while
something is still in it.  What it does to the client is nevertheless known
beforehand: stage by stage, the frames are received and then the lines are
submitted.  Only the lines of a last stage depend on which end was closed.

The loop is first described without its implementation, by one rule for each
thing it can find in its queues.  A derivation is finite, so deriving a result
says that the loop comes to rest, and every rule moves one frame or line from
a queue to the client.
-/

namespace EventLoop

open Client (Operation)

/-! ## The rules of the loop -/

/-- The loop comes to rest on these queues: it ends, or it waits for more. -/
inductive Rests : Run -> Inbox -> Run -> Option Ending -> Prop where
  | frame {run : Run} {inbox rest : Inbox} {frame : String} {final : Run} {stop : Option Ending}
      (polled : inbox.poll = .frame frame rest)
      (later : Rests (run.extend (run.client.receive frame)) rest final stop) :
      Rests run inbox final stop
  | line {run : Run} {inbox rest : Inbox} {line : String} {final : Run} {stop : Option Ending}
      (polled : inbox.poll = .line line rest)
      (later : Rests (run.extend (run.client.submit line)) rest final stop) :
      Rests run inbox final stop
  | ended {run : Run} {inbox : Inbox} {ending : Ending} (polled : inbox.poll = .ended ending) :
      Rests run inbox (run.finish ending) (some ending)
  | waiting {run : Run} {inbox : Inbox} (polled : inbox.poll = .waiting) :
      Rests run inbox run none

/-- The stages are gone through and the loop ends.  On each stage but the last
one it has to wait again. -/
inductive Ends (closing : Closing) : Run -> List Stage -> Run -> Ending -> Prop where
  | closed {run final : Run} {ending : Ending}
      (rests : Rests run (closing.close {}) final (some ending)) :
      Ends closing run [] final ending
  | last {run final : Run} {ending : Ending} {stage : Stage} {rest : List Stage}
      (isLast : stage.last = true)
      (rests : Rests run (closing.close stage) final (some ending)) :
      Ends closing run (stage :: rest) final ending
  | waited {run middle final : Run} {ending : Ending} {stage : Stage} {rest : List Stage}
      (notLast : stage.last = false)
      (rests : Rests run { frames := stage.frames, lines := stage.lines } middle none)
      (later : Ends closing middle rest final ending) :
      Ends closing run (stage :: rest) final ending

theorem work_eq (run : Run) (inbox : Inbox) :
    work run inbox =
      match inbox.poll with
      | .frame frame rest => work (run.extend (run.client.receive frame)) rest
      | .line line rest => work (run.extend (run.client.submit line)) rest
      | .ended ending => run.finish ending
      | .waiting => run := by
  rw [work]
  split <;> next polled => rw [polled]

/-- The queues alone decide which rule applies. -/
theorem rests_iff {run final : Run} {inbox : Inbox} {stop : Option Ending} :
    Rests run inbox final stop <->
      match inbox.poll with
      | .frame frame rest => Rests (run.extend (run.client.receive frame)) rest final stop
      | .line line rest => Rests (run.extend (run.client.submit line)) rest final stop
      | .ended ending => final = run.finish ending ∧ stop = some ending
      | .waiting => final = run ∧ stop = none := by
  constructor
  · intro rests
    cases rests with
    | frame polled later =>
        rw [polled]
        exact later
    | line polled later =>
        rw [polled]
        exact later
    | ended polled =>
        rw [polled]
        exact ⟨rfl, rfl⟩
    | waiting polled =>
        rw [polled]
        exact ⟨rfl, rfl⟩
  · cases polled : inbox.poll with
    | frame frame rest => exact Rests.frame polled
    | line line rest => exact Rests.line polled
    | ended ending =>
        rintro ⟨rfl, rfl⟩
        exact Rests.ended polled
    | waiting =>
        rintro ⟨rfl, rfl⟩
        exact Rests.waiting polled

/-- Whatever the rules derive is what the loop computes. -/
theorem Rests.eq_work {run final : Run} {inbox : Inbox} {stop : Option Ending}
    (rests : Rests run inbox final stop) : final = work run inbox := by
  induction rests with
  | frame polled later inductionHypothesis =>
      rw [work_eq, polled]
      exact inductionHypothesis
  | line polled later inductionHypothesis =>
      rw [work_eq, polled]
      exact inductionHypothesis
  | ended polled => rw [work_eq, polled]
  | waiting polled => rw [work_eq, polled]

theorem Rests.stop_unique {run first second : Run} {inbox : Inbox} {stop other : Option Ending}
    (rests : Rests run inbox first stop) (again : Rests run inbox second other) :
    other = stop := by
  induction rests with
  | frame polled later inductionHypothesis =>
      rw [rests_iff, polled] at again
      exact inductionHypothesis again
  | line polled later inductionHypothesis =>
      rw [rests_iff, polled] at again
      exact inductionHypothesis again
  | ended polled =>
      rw [rests_iff, polled] at again
      exact again.2
  | waiting polled =>
      rw [rests_iff, polled] at again
      exact again.2

/-- Whatever the rules derive over the stages is what the loop computes. -/
theorem Ends.eq_drive {closing : Closing} {run final : Run} {stages : List Stage}
    {ending : Ending} (ends : Ends closing run stages final ending) :
    final = drive closing run stages := by
  induction ends with
  | closed rests => exact rests.eq_work
  | last isLast rests =>
      rw [drive, if_pos isLast]
      exact rests.eq_work
  | waited notLast rests later inductionHypothesis =>
      rw [drive, notLast, if_neg Bool.false_ne_true, ← rests.eq_work]
      exact inductionHypothesis

theorem Ends.ending_unique {closing : Closing} {run first second : Run} {stages : List Stage}
    {ending other : Ending} (ends : Ends closing run stages first ending)
    (again : Ends closing run stages second other) : other = ending := by
  induction ends with
  | closed rests =>
      cases again with
      | closed restsAgain => exact Option.some.inj (rests.stop_unique restsAgain)
  | last isLast rests =>
      cases again with
      | last _ restsAgain => exact Option.some.inj (rests.stop_unique restsAgain)
      | waited notLast => cases isLast.symm.trans notLast
  | waited notLast rests later inductionHypothesis =>
      cases again with
      | last isLast => cases notLast.symm.trans isLast
      | waited _ restsAgain laterAgain =>
          rw [rests.eq_work, ← restsAgain.eq_work] at inductionHypothesis
          exact inductionHypothesis laterAgain

/-! ## The sequential program -/

/-- All frames of a stage, then all its lines. -/
def Stage.program (stage : Stage) : List Operation :=
  stage.frames.map .receive ++ stage.lines.map .submit

/-- The contents of a stage that is still in the queues when the ends are
closed.  Once the frames are used up, a closed channel ends the loop before
the next line. -/
def Closing.lastProgram (closing : Closing) (stage : Stage) : List Operation :=
  match closing with
  | .input => stage.program
  | .channel | .both => stage.frames.map .receive

/-- The operations of the loop. -/
def Closing.program (closing : Closing) : List Stage -> List Operation
  | [] => []
  | stage :: rest =>
      if stage.last then closing.lastProgram stage else stage.program ++ closing.program rest

/-- The closed end at which the loop ends.  The channel goes first. -/
def Closing.ending : Closing -> Ending
  | .input => .inputClosed
  | .channel | .both => .channelClosed

/-- The run with some operations carried out on its client. -/
def Run.along (run : Run) (operations : List Operation) : Run :=
  { client := run.client.after operations
    shown := run.shown ++ run.client.displayed operations
    log := run.log ++ run.client.logged operations }

theorem Run.along_nil (run : Run) : run.along [] = run := by
  simp only [along, Client.after, Client.displayed, Client.logged, Client.effects,
    List.flatMap_nil, List.append_nil]

theorem Run.along_cons (run : Run) (operation : Operation) (rest : List Operation) :
    run.along (operation :: rest) = (run.extend (run.client.perform operation)).along rest := by
  simp only [along, extend, Client.after, Client.displayed, Client.logged, Client.effects,
    List.flatMap_cons, List.append_assoc]

theorem Run.along_append (run : Run) (earlier later : List Operation) :
    run.along (earlier ++ later) = (run.along earlier).along later := by
  simp only [along, Client.after_append, Client.displayed_append, Client.logged_append,
    List.append_assoc]

/-- Frames in the queue are received before anything else is looked at. -/
theorem Rests.of_frames {run final : Run} {stop : Option Ending} (inbox : Inbox)
    (later : Rests (run.along (inbox.frames.map .receive)) { inbox with frames := [] } final stop) :
    Rests run inbox final stop := by
  rcases inbox with ⟨frames, lines, framesClosed, linesClosed⟩
  induction frames generalizing run with
  | nil =>
      rw [List.map_nil, Run.along_nil] at later
      exact later
  | cons frame rest inductionHypothesis =>
      rw [List.map_cons, Run.along_cons] at later
      exact Rests.frame rfl (inductionHypothesis later)

/-- With no frames and the channel open, the lines in the queue are submitted. -/
theorem Rests.of_lines {run final : Run} {linesClosed : Bool} {stop : Option Ending}
    (lines : List String)
    (later : Rests (run.along (lines.map .submit)) { linesClosed := linesClosed } final stop) :
    Rests run { lines := lines, linesClosed := linesClosed } final stop := by
  induction lines generalizing run with
  | nil =>
      rw [List.map_nil, Run.along_nil] at later
      exact later
  | cons line rest inductionHypothesis =>
      rw [List.map_cons, Run.along_cons] at later
      exact Rests.line rfl (inductionHypothesis later)

theorem rests_stage (run : Run) (stage : Stage) :
    Rests run { frames := stage.frames, lines := stage.lines } (run.along stage.program) none := by
  refine Rests.of_frames { frames := stage.frames, lines := stage.lines } ?_
  refine Rests.of_lines stage.lines ?_
  rw [← Run.along_append]
  exact Rests.waiting rfl

theorem rests_lastStage (closing : Closing) (run : Run) (stage : Stage) :
    Rests run (closing.close stage)
      ((run.along (closing.lastProgram stage)).finish closing.ending) (some closing.ending) := by
  refine Rests.of_frames (closing.close stage) ?_
  cases closing with
  | input =>
      refine Rests.of_lines stage.lines ?_
      rw [← Run.along_append]
      exact Rests.ended rfl
  | _ => exact Rests.ended rfl

theorem ends_program (closing : Closing) (run : Run) (stages : List Stage) :
    Ends closing run stages
      ((run.along (closing.program stages)).finish closing.ending) closing.ending := by
  induction stages generalizing run with
  | nil =>
      have rests := rests_lastStage closing run {}
      refine Ends.closed ?_
      cases closing <;> exact rests
  | cons stage rest inductionHypothesis =>
      cases isLast : stage.last with
      | true =>
          rw [Closing.program, if_pos isLast]
          exact Ends.last isLast (rests_lastStage closing run stage)
      | false =>
          rw [Closing.program, isLast, if_neg Bool.false_ne_true, Run.along_append]
          exact Ends.waited isLast (rests_stage run stage) (inductionHypothesis _)

/-! ## What was queued before a line -/

/-- The stages that are reached: those up to the first one that is the last. -/
def reached : List Stage -> List Stage
  | [] => []
  | stage :: rest => if stage.last then [stage] else stage :: reached rest

/-- The stages on which the loop waits. -/
def waited (stages : List Stage) : List Stage :=
  stages.takeWhile fun stage => !stage.last

/-- The operations are all that was put into the queues ahead of a line: the
earlier stages as a whole, the frames of the line's own stage, and the lines of
that stage before it. -/
def Ahead (stages : List Stage) (line : String) (operations : List Operation) : Prop :=
  Exists fun earlier => Exists fun stage => Exists fun later =>
    Exists fun submitted => Exists fun remaining =>
      stages = earlier ++ stage :: later ∧
      stage.lines = submitted ++ line :: remaining ∧
      operations = earlier.flatMap Stage.program ++
        (stage.frames.map .receive ++ submitted.map .submit)

theorem received_frames (frames : List String) : Client.received (frames.map .receive) = frames := by
  rw [Client.received, List.filterMap_map]
  exact List.filterMap_some

theorem submitted_frames (frames : List String) : Client.submitted (frames.map .receive) = [] := by
  rw [Client.submitted, List.filterMap_map]
  exact List.filterMap_eq_nil_iff.mpr fun _ _ => rfl

theorem received_program (stage : Stage) : Client.received stage.program = stage.frames := by
  have lines : Client.received (stage.lines.map .submit) = [] := by
    rw [Client.received, List.filterMap_map]
    exact List.filterMap_eq_nil_iff.mpr fun _ _ => rfl
  rw [Stage.program, Client.received_append, received_frames, lines, List.append_nil]

theorem submitted_program (stage : Stage) : Client.submitted stage.program = stage.lines := by
  have lines : Client.submitted (stage.lines.map .submit) = stage.lines := by
    rw [Client.submitted, List.filterMap_map]
    exact List.filterMap_some
  rw [Stage.program, Client.submitted_append, submitted_frames, lines, List.nil_append]

theorem program_frames (closing : Closing) (stages : List Stage) :
    Client.received (closing.program stages) = (reached stages).flatMap Stage.frames := by
  induction stages with
  | nil => rfl
  | cons stage rest inductionHypothesis =>
      rw [Closing.program, reached]
      cases isLast : stage.last with
      | true =>
          have only : Client.received (closing.lastProgram stage) = stage.frames := by
            cases closing with
            | input => exact received_program stage
            | _ => exact received_frames stage.frames
          rw [if_pos rfl, if_pos rfl, only, List.flatMap_singleton]
      | false =>
          rw [if_neg Bool.false_ne_true, if_neg Bool.false_ne_true, Client.received_append,
            received_program, inductionHypothesis, List.flatMap_cons]

theorem program_lines (closing : Closing) (stages : List Stage) :
    Client.submitted (closing.program stages) =
      (if closing = .input then reached stages else waited stages).flatMap Stage.lines := by
  induction stages with
  | nil => cases closing <;> rfl
  | cons stage rest inductionHypothesis =>
      rw [Closing.program, reached, waited, List.takeWhile_cons]
      cases isLast : stage.last with
      | true =>
          rw [if_pos rfl, if_pos rfl]
          cases closing with
          | input =>
              rw [if_pos rfl, List.flatMap_singleton]
              exact submitted_program stage
          | _ => exact submitted_frames stage.frames
      | false =>
          rw [if_neg Bool.false_ne_true, if_neg Bool.false_ne_true, Client.submitted_append,
            submitted_program, inductionHypothesis]
          split <;> rfl

/-- What comes before a submission goes past the frames received first. -/
theorem split_after_received {frames : List String} {later before after : List Operation}
    {line : String}
    (split : frames.map .receive ++ later = before ++ .submit line :: after) :
    Exists fun middle =>
      before = frames.map .receive ++ middle ∧ later = middle ++ .submit line :: after := by
  induction frames generalizing before with
  | nil => exact ⟨before, rfl, split⟩
  | cons frame rest inductionHypothesis =>
      cases before with
      | nil => cases split
      | cons operation before =>
          injection split with head tail
          rcases inductionHypothesis tail with ⟨middle, start, finish⟩
          refine ⟨middle, ?_, finish⟩
          rw [start, ← head]
          rfl

/-- A submission is one of the lines submitted first, or comes after them. -/
theorem split_at_submitted {lines : List String} {later before after : List Operation}
    {line : String}
    (split : lines.map .submit ++ later = before ++ .submit line :: after) :
    (Exists fun submitted => Exists fun remaining =>
      lines = submitted ++ line :: remaining ∧ before = submitted.map .submit) ∨
    (Exists fun middle =>
      before = lines.map .submit ++ middle ∧ later = middle ++ .submit line :: after) := by
  induction lines generalizing before with
  | nil => exact Or.inr ⟨before, rfl, split⟩
  | cons first rest inductionHypothesis =>
      cases before with
      | nil =>
          injection split with head tail
          injection head with same
          exact Or.inl ⟨[], rest, congrArg (List.cons · rest) same, rfl⟩
      | cons operation before =>
          injection split with head tail
          rcases inductionHypothesis tail with
            ⟨submitted, remaining, lines, start⟩ | ⟨middle, start, finish⟩
          · refine Or.inl ⟨first :: submitted, remaining, congrArg (List.cons first) lines, ?_⟩
            rw [start, ← head]
            rfl
          · refine Or.inr ⟨middle, ?_, finish⟩
            rw [start, ← head]
            rfl

theorem Ahead.later {stages : List Stage} {line : String} {operations : List Operation}
    (stage : Stage) (ahead : Ahead stages line operations) :
    Ahead (stage :: stages) line (stage.program ++ operations) := by
  rcases ahead with ⟨earlier, own, later, submitted, remaining, rfl, lines, rfl⟩
  refine ⟨stage :: earlier, own, later, submitted, remaining, rfl, lines, ?_⟩
  rw [List.flatMap_cons, List.append_assoc]

/-- A submission within a stage, or after it. -/
theorem ahead_or_later {stage : Stage} {rest : List Stage} {later before after : List Operation}
    {line : String} (split : stage.program ++ later = before ++ .submit line :: after) :
    Ahead (stage :: rest) line before ∨
      Exists fun middle =>
        before = stage.program ++ middle ∧ later = middle ++ .submit line :: after := by
  rw [Stage.program, List.append_assoc] at split
  rcases split_after_received split with ⟨fromLines, rfl, atLines⟩
  rcases split_at_submitted atLines with ⟨submitted, remaining, lines, rfl⟩ | ⟨middle, rfl, past⟩
  · exact Or.inl ⟨[], stage, rest, submitted, remaining, rfl, lines, rfl⟩
  · exact Or.inr ⟨middle, (List.append_assoc _ _ _).symm, past⟩

/-- No line overtakes what was queued before it. -/
theorem ahead_of_program {closing : Closing} {stages : List Stage}
    {before after : List Operation} {line : String}
    (split : closing.program stages = before ++ .submit line :: after) :
    Ahead stages line before := by
  induction stages generalizing before with
  | nil => simp [Closing.program] at split
  | cons stage rest inductionHypothesis =>
      cases isLast : stage.last with
      | false =>
          rw [Closing.program, isLast, if_neg Bool.false_ne_true] at split
          rcases ahead_or_later split with ahead | ⟨middle, rfl, later⟩
          · exact ahead
          · exact (inductionHypothesis later).later stage
      | true =>
          have last : closing.lastProgram stage ++ [] = before ++ .submit line :: after := by
            rw [List.append_nil, ← split, Closing.program, if_pos isLast]
          cases closing with
          | input =>
              rcases ahead_or_later last with ahead | ⟨middle, _, nothing⟩
              · exact ahead
              · simp at nothing
          | _ =>
              rcases split_after_received last with ⟨middle, _, nothing⟩
              simp at nothing

/-! ## The notice of the closed channel -/

/-- A line with another mark is not the notice. -/
theorem closedNotice_ne {mark text : String} (character : Char) (rest : List Char)
    (marked : mark.toList = character :: rest) (other : character ≠ '#') :
    mark ++ text ≠ "### Closed WebSocket" := by
  intro same
  have heads := congrArg (fun line => line.toList.head?) same
  simp only [String.toList_append, marked] at heads
  exact other (Option.some.inj heads)

/-- No operation displays the notice, not even when text from the server looks
like it. -/
theorem closedNotice_not_shown (client : Client) (operation : Operation) :
    Shown.line "### Closed WebSocket" ∉ (client.perform operation).shown.map Shown.labelled := by
  intro member
  rcases List.mem_map.mp member with ⟨shown, displayed, label⟩
  cases operation with
  | submit line =>
      rcases Client.submit_shown displayed with ⟨text, rfl⟩ | ⟨text, rfl⟩ | rfl
      · exact closedNotice_ne '>' _ rfl (by decide) (Shown.line.inj label)
      · exact closedNotice_ne '%' _ rfl (by decide) (Shown.line.inj label)
      · revert label
        decide
  | receive frame =>
      cases shown with
      | line text => exact Client.receive_shown displayed
      | received text => exact closedNotice_ne '<' _ rfl (by decide) (Shown.line.inj label)
      | update hand play => cases label
      | inspect card => cases label
  | identity player room =>
      dsimp only [Client.perform, Client.logIn] at displayed
      split at displayed <;> cases displayed
  | _ => cases displayed

theorem closedNotice_not_displayed (client : Client) (operations : List Operation) :
    Shown.line "### Closed WebSocket" ∉ (client.displayed operations).map Shown.labelled := by
  induction operations generalizing client with
  | nil => exact List.not_mem_nil
  | cons operation rest inductionHypothesis =>
      rw [Client.displayed, Client.effects, List.flatMap_cons, List.map_append]
      exact fun member => (List.mem_append.mp member).elim
        (closedNotice_not_shown client operation) (inductionHypothesis _)

/-! ## The loop -/

/-- The loop does what the sequential program does.

For every client, all stages and any closed ends: the rules of the loop derive
one result, at the ending that the closed ends call for, so the loop ends and
computes that result.  It is the client after the program, with what the
program displays and logs.  A closed channel is then told of, once, and logged;
otherwise only the end of the input is logged.  In the program every frame of
the stages that are reached stands once and in order, and so does every line,
except that the lines of a last stage are left out when the channel is closed.
Ahead of a line stands exactly what was queued before it. -/
theorem drive_sequential (closing : Closing) (client : Client) (stages : List Stage) :
    let operations := closing.program stages
    let final := drive closing { client := client } stages
    (forall result ending, Ends closing { client := client } stages result ending <->
      result = final ∧ ending = closing.ending) ∧
    final.client = client.after operations ∧
    final.shown = client.displayed operations ++
      (if closing = .input then [] else [.line "### Closed WebSocket"]) ∧
    (final.shown.map Shown.labelled).count (.line "### Closed WebSocket") =
      (if closing = .input then 0 else 1) ∧
    final.log = client.logged operations ++
      [if closing = .input then .inputClosed else .channelClosed] ∧
    Client.received operations = (reached stages).flatMap Stage.frames ∧
    Client.submitted operations =
      (if closing = .input then reached stages else waited stages).flatMap Stage.lines ∧
    (forall before line after, operations = before ++ .submit line :: after ->
      Ahead stages line before) := by
  intro operations final
  have ends := ends_program closing { client := client } stages
  have computed : ((Run.mk client [] []).along operations).finish closing.ending = final :=
    ends.eq_drive
  have shown : final.shown = client.displayed operations ++
      (if closing = .input then [] else [.line "### Closed WebSocket"]) := by
    rw [← computed]
    cases closing with
    | input => exact (List.append_nil _).symm
    | _ => rfl
  refine ⟨?_, ?_, shown, ?_, ?_, program_frames closing stages, program_lines closing stages,
    fun before line after => ahead_of_program⟩
  · intro result ending
    constructor
    · exact fun other => ⟨other.eq_drive, ends.ending_unique other⟩
    · rintro ⟨rfl, rfl⟩
      rw [← computed]
      exact ends
  · rw [← computed]
    cases closing <;> rfl
  · rw [shown, List.map_append, List.count_append,
      List.count_eq_zero_of_not_mem (closedNotice_not_displayed client operations), Nat.zero_add]
    cases closing <;> rfl
  · rw [← computed]
    cases closing <;> rfl

end EventLoop
end CardTable
