import CardTable.Display
import CardTable.History
import CardTable.Interpretation
import CardTable.Outbox

namespace CardTable

/-!
# The client

The client holds the session, the history, the roster, the counters and the
outbound queue, and applies to them what the player types and what the server
sends.  Each operation gives an answer, what it displays and what it logs, next
to the client that it leaves behind.
-/

/-- Frames counted by what became of them. -/
structure Stats where
  handled : Nat := 0
  malformed : Nat := 0
  unknown : Nat := 0
  deriving DecidableEq, Repr

structure Client where
  session : Session
  history : History := {}
  roster : Roster := {}
  stats : Stats := {}
  outbox : Outbox
  deriving DecidableEq, Repr

namespace Client

def start (identity : Identity) (capacity : Nat) : Client :=
  { session := { identity := identity }, outbox := { capacity := capacity } }

inductive Operation where
  | submit (line : String)
  | receive (frame : String)
  /-- The recall keys are pressed with this text in the input field. -/
  | up (field : String)
  | down
  | escape
  /-- Any other key changes the input field to this text. -/
  | key (field : String)
  | identity (player room : String)
  /-- Everything in the outbound queue is taken out. -/
  | drain
  /-- The receiving end of the outbound queue goes away. -/
  | close
  deriving DecidableEq, Repr

inductive Answer where
  | done
  | outcome (outcome : Outcome)
  /-- The text that the input field shows now. -/
  | field (text : String)
  | refused (cause : Error)
  | messages (texts : List String)
  deriving DecidableEq, Repr

structure Effect where
  client : Client
  answer : Answer := .done
  shown : List Shown := []
  log : List Record := []
  deriving DecidableEq, Repr

def display (line : String) : Outcome -> List Shown
  | .nothing => []
  | .send _ => [.echo line]
  | .info text => [.info text]
  | .hint text => [.info text]
  | .failure _ => [.info ("Failed to parse: " ++ line)]

/-- The records of a request that the queue did not take. -/
def unsentLog (request : Request) : Outbox.Refusal -> List Record
  | .full => [.queueFull, .requestNotSent request.command]
  | .closed => [.requestNotSent request.command]

/-- Put a request on the outbound queue.  Nothing is tried again. -/
def send (client : Client) (request : Request) : Effect :=
  match client.outbox.push request.wire with
  | .ok outbox => { client := { client with outbox := outbox } }
  | .error refusal =>
      { client := client
        shown := [.status "Can't send to closed socket"]
        log := unsentLog request refusal }

def sendFor (client : Client) (outcome : Outcome) : Effect :=
  match outcome.request? with
  | some request => client.send request
  | none => { client := client }

/-- Keep a line whose outcome clears the input field. -/
def record (client : Client) (line : String) (outcome : Outcome) : Client :=
  if outcome.clearsInput then { client with history := client.history.submit line } else client

/-- Submit a line: interpret it, display, send, and keep it.  An empty line
does nothing. -/
def submit (client : Client) (line : String) : Effect :=
  if line.isEmpty then { client := client, answer := .outcome .nothing }
  else
    let (outcome, session) := client.session.interpret client.roster line
    let sent := sendFor { client with session := session } outcome
    { client := sent.client.record line outcome
      answer := .outcome outcome
      shown := display line outcome ++ sent.shown
      log := outcome.log ++ sent.log }

def countHandled (client : Client) : Client :=
  { client with stats := { client.stats with handled := client.stats.handled + 1 } }

def countMalformed (client : Client) : Client :=
  { client with stats := { client.stats with malformed := client.stats.malformed + 1 } }

def countUnknown (client : Client) : Client :=
  { client with stats := { client.stats with unknown := client.stats.unknown + 1 } }

/-- Options arrive.  When there are none, nothing changes but the count. -/
def offer (client : Client) (options : List String) : Effect :=
  match client.session.present? options with
  | some session =>
      { client := { client with session := session }.countHandled
        shown := [.received (Choosing.listing session.choices)] }
  | none => { client := client.countHandled, log := [.emptyChoicesIgnored] }

def accept (client : Client) : Frame -> Effect
  | .message data => { client := client.countHandled, shown := [.received data] }
  | .update hand play =>
      { client := { client with roster := Roster.ofPlay play }.countHandled
        shown := [.update hand play] }
  | .inspect card => { client := client.countHandled, shown := [.inspect card] }
  | .choices options => client.offer options
  | .unknown _ => { client := client.countUnknown, log := [.unknownFrame] }

/-- A frame arrives.  One that cannot be read is counted, logged and dropped. -/
def receive (client : Client) (frame : String) : Effect :=
  match Frame.read frame with
  | .ok content => client.accept content
  | .error fault => { client := client.countMalformed, log := [.frameDropped fault.toError] }

/-- Somebody else logs in.  A refused identity changes nothing. -/
def logIn (client : Client) (player room : String) : Effect :=
  match Identity.create player room with
  | .ok identity =>
      { client := { client with session := { client.session with identity := identity } }
        log := [.identitySet] }
  | .error cause => { client := client, answer := .refused cause }

/-- The client with another history, answering what the input field shows. -/
def browse (client : Client) (history : History) : Effect :=
  { client := { client with history := history }, answer := .field history.field }

def perform (client : Client) : Operation -> Effect
  | .submit line => client.submit line
  | .receive frame => client.receive frame
  | .up field => client.browse (client.history.up field)
  | .down => client.browse client.history.down
  | .escape => client.browse client.history.escape
  | .key field => { client := { client with history := client.history.typed field } }
  | .identity player room => client.logIn player room
  | .drain =>
      { client := { client with outbox := client.outbox.drain }
        answer := .messages client.outbox.queued }
  | .close => { client := { client with outbox := client.outbox.close } }

end Client
end CardTable
