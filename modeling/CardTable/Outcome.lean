import CardTable.Log
import CardTable.Request

namespace CardTable

/-!
# Outcomes of a typed line

A typed line ends in one of five ways.  What is shown, whether a request goes
out, and whether the line leaves the input field all follow from which.
-/

inductive Outcome where
  /-- Nothing happens; the line stays. -/
  | nothing
  /-- The line is echoed and a request goes out. -/
  | send (request : Request)
  | info (text : String)
  /-- A text is shown and the line stays, so that it can be completed. -/
  | hint (text : String)
  | failure (cause : Error)
  deriving DecidableEq, Repr

namespace Outcome

def ofExcept : Except Error Outcome -> Outcome
  | .ok outcome => outcome
  | .error cause => failure cause

def request? : Outcome -> Option Request
  | send request => some request
  | _ => none

/-- The line leaves the input field and goes into the history. -/
def clearsInput : Outcome -> Bool
  | nothing => false
  | hint _ => false
  | _ => true

def isFailure : Outcome -> Bool
  | failure _ => true
  | _ => false

def text? : Outcome -> Option String
  | info text => some text
  | hint text => some text
  | _ => none

/-- The records of an outcome: one for a refusal, none otherwise. -/
def log : Outcome -> List Record
  | failure cause => [.inputRejected cause]
  | _ => []

end Outcome
end CardTable
