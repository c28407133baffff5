import CardTable.Error

namespace CardTable

/-!
# The log

Every event that is worth a record.  Which cause, detail or command goes with a
record follows from the event.
-/

inductive Record where
  | inputRejected (cause : Error)
  | emptyChoicesIgnored
  | identitySet
  /-- A frame of the server could not be read. -/
  | frameDropped (cause : Error)
  | unknownFrame
  | queueFull
  /-- A request with this command word did not get into the outbound queue. -/
  | requestNotSent (command : String)
  | channelClosed
  | inputClosed
  | writeFailed (detail : String)
  deriving DecidableEq, Repr

namespace Record

/-- The sentence under which the event is logged. -/
def event : Record -> String
  | inputRejected _ => "input rejected"
  | emptyChoicesIgnored => "ignoring empty choice list"
  | identitySet => "session identity set"
  | frameDropped _ => "dropping inbound frame"
  | unknownFrame => "weird request"
  | queueFull => "outbound queue full"
  | requestNotSent _ => "request not sent"
  | channelClosed => "channel closed"
  | inputClosed => "input closed"
  | writeFailed _ => "presentation write failed"

/-- The refusal that is told with the event. -/
def cause? : Record -> Option Error
  | inputRejected cause => some cause
  | frameDropped cause => some cause
  | requestNotSent _ => some .channelClosed
  | _ => none

def code? (record : Record) : Option ErrorCode :=
  record.cause?.map Error.code

/-- The sentence that says what went wrong. -/
def detail? : Record -> Option String
  | writeFailed detail => some detail
  | record => record.cause?.map Error.message

def command? : Record -> Option String
  | requestNotSent command => some command
  | _ => none

end Record
end CardTable
