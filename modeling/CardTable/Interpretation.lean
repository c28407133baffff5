import CardTable.Choosing
import CardTable.Line

namespace CardTable

/-!
# From a typed line to its outcome

The mode of the session decides how a line is read, at the moment at which it
is read: a choice that arrives between two lines counts for the second one.

A session is also driven from outside: options are presented and taken back,
and the identity changes.  `Session.step` is one such step, whatever its kind.
-/

namespace Session

def interpret (session : Session) (roster : Roster) (line : String) : Outcome × Session :=
  match Line.tokenize line with
  | .error cause => (.failure cause, session)
  | .ok [] => (.failure (.unknownCommand ""), session)
  | .ok (word :: arguments) =>
      match session.mode with
      | .normal => (Command.resolveWord session.identity roster word arguments, session)
      | .choosing _ => Choosing.answer session word arguments

inductive Step where
  | line (text : String)
  | choices (options : List String)
  /-- The pending choice is taken back. -/
  | clear
  | identity (player room : String)
  deriving DecidableEq, Repr

inductive Answer where
  | outcome (outcome : Outcome)
  /-- The options were taken, or there were none. -/
  | presented (taken : Bool)
  | cleared
  | renamed
  | refused (cause : Error)
  deriving DecidableEq, Repr

namespace Answer

def log : Answer -> List Record
  | .outcome result => result.log
  | .presented taken => if taken then [] else [.emptyChoicesIgnored]
  | .cleared => []
  | .renamed => [.identitySet]
  | .refused _ => []

end Answer

/-- Take one step.  A refused identity changes nothing. -/
def step (roster : Roster) (session : Session) : Step -> Answer × Session
  | .line text =>
      let (outcome, after) := session.interpret roster text
      (.outcome outcome, after)
  | .choices options =>
      match session.present? options with
      | some after => (.presented true, after)
      | none => (.presented false, session)
  | .clear => (.cleared, session.clear)
  | .identity player room =>
      match Identity.create player room with
      | .ok identity => (.renamed, { session with identity := identity })
      | .error cause => (.refused cause, session)

end Session
end CardTable
