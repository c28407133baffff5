import CardTable.Client

namespace CardTable

/-!
# The event loop

Two queues feed the client: frames of the server and typed lines.  Frames that
have arrived are applied before the next line is read.  The loop ends when the
server side is closed and its frames are used up, or when there are no frames
and the input is closed and used up.
-/

namespace EventLoop

structure Inbox where
  frames : List String := []
  lines : List String := []
  framesClosed : Bool := false
  linesClosed : Bool := false
  deriving DecidableEq, Repr

inductive Ending where
  | channelClosed
  | inputClosed
  deriving DecidableEq, Repr

/-- What the loop finds when it looks at its queues. -/
inductive Poll where
  | frame (frame : String) (rest : Inbox)
  | line (line : String) (rest : Inbox)
  | ended (ending : Ending)
  /-- Nothing is there yet. -/
  | waiting
  deriving DecidableEq, Repr

namespace Inbox

/-- Look at the queues, frames first. -/
def poll (inbox : Inbox) : Poll :=
  match inbox.frames, inbox.lines with
  | frame :: frames, _ => .frame frame { inbox with frames := frames }
  | [], lines =>
      if inbox.framesClosed then .ended .channelClosed
      else
        match lines with
        | line :: lines => .line line { inbox with lines := lines }
        | [] => if inbox.linesClosed then .ended .inputClosed else .waiting

def size (inbox : Inbox) : Nat :=
  inbox.frames.length + inbox.lines.length

end Inbox

/-- A client with all that it has displayed and logged so far. -/
structure Run where
  client : Client
  shown : List Shown := []
  log : List Record := []
  deriving DecidableEq, Repr

namespace Run

def extend (run : Run) (effect : Client.Effect) : Run :=
  { client := effect.client
    shown := run.shown ++ effect.shown
    log := run.log ++ effect.log }

/-- What is displayed and logged at the end. -/
def finish (run : Run) : Ending -> Run
  | .channelClosed =>
      { run with
        shown := run.shown ++ [.status "Closed WebSocket"]
        log := run.log ++ [.channelClosed] }
  | .inputClosed => { run with log := run.log ++ [.inputClosed] }

end Run

theorem Inbox.size_of_frame {inbox rest : Inbox} {frame : String}
    (polled : inbox.poll = .frame frame rest) : rest.size < inbox.size := by
  unfold Inbox.poll at polled
  split at polled
  · next filled =>
    cases polled
    simp [Inbox.size, filled]
  · split at polled
    · cases polled
    · split at polled
      · cases polled
      · split at polled <;> cases polled

theorem Inbox.size_of_line {inbox rest : Inbox} {line : String}
    (polled : inbox.poll = .line line rest) : rest.size < inbox.size := by
  unfold Inbox.poll at polled
  split at polled
  · cases polled
  · split at polled
    · cases polled
    · split at polled
      · next filled =>
        cases polled
        simp [Inbox.size, filled]
      · split at polled <;> cases polled

/-- Work through the queues until the loop waits or ends. -/
def work (run : Run) (inbox : Inbox) : Run :=
  match _ : inbox.poll with
  | .frame frame rest => work (run.extend (run.client.receive frame)) rest
  | .line line rest => work (run.extend (run.client.submit line)) rest
  | .ended ending => run.finish ending
  | .waiting => run
termination_by inbox.size
decreasing_by
  · next polled => exact Inbox.size_of_frame polled
  · next polled => exact Inbox.size_of_line polled

/-- Frames and lines that are put into the queues at once.  Unless the stage is
the last one, the next stage comes when the loop waits again. -/
structure Stage where
  frames : List String := []
  lines : List String := []
  last : Bool := false
  deriving DecidableEq, Repr

/-- The ends that are closed after the stages. -/
inductive Closing where
  | channel
  | input
  | both
  deriving DecidableEq, Repr

/-- The queues with the contents of a stage, and the given ends closed. -/
def Closing.close (closing : Closing) (stage : Stage) : Inbox :=
  { frames := stage.frames
    lines := stage.lines
    framesClosed := closing = .channel || closing = .both
    linesClosed := closing = .input || closing = .both }

/-- Go through the stages.  A last stage is still in the queues when the ends
are closed; after any other the queues are empty by then. -/
def drive (closing : Closing) (run : Run) : List Stage -> Run
  | [] => work run (closing.close {})
  | stage :: rest =>
      if stage.last then work run (closing.close stage)
      else drive closing (work run { frames := stage.frames, lines := stage.lines }) rest

end EventLoop
end CardTable
