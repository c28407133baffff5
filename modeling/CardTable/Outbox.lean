namespace CardTable

/-!
# The outbound queue

Messages for the server wait in a queue of limited length.  The receiving end
can go away; what waits is then lost, and nothing is taken any more.
-/

structure Outbox where
  capacity : Nat
  /-- Messages that wait, oldest first. -/
  queued : List String := []
  closed : Bool := false
  deriving DecidableEq, Repr

namespace Outbox

inductive Refusal where
  | full
  | closed
  deriving DecidableEq, Repr

def push (outbox : Outbox) (message : String) : Except Refusal Outbox :=
  if outbox.closed then .error .closed
  else if outbox.capacity ≤ outbox.queued.length then .error .full
  else .ok { outbox with queued := outbox.queued ++ [message] }

/-- The queue once everything that waits is taken out. -/
def drain (outbox : Outbox) : Outbox :=
  { outbox with queued := [] }

/-- The queue once the receiving end is gone. -/
def close (outbox : Outbox) : Outbox :=
  { outbox with queued := [], closed := true }

end Outbox
end CardTable
