import CardTable.Identity

namespace CardTable

/-!
# The session

A session knows who plays and whether the server waits for a choice.  It waits
exactly when there are options to choose from: the mode carries the options,
and there is at least one of them.
-/

structure Options where
  first : String
  others : List String
  deriving DecidableEq, Repr

namespace Options

def toList (options : Options) : List String :=
  options.first :: options.others

def ofList? : List String -> Option Options
  | [] => none
  | first :: others => some ⟨first, others⟩

end Options

inductive Mode where
  | normal
  /-- The server waits for one of the options. -/
  | choosing (options : Options)
  deriving DecidableEq, Repr

structure Session where
  identity : Identity
  mode : Mode := .normal
  deriving DecidableEq, Repr

namespace Session

/-- The options of the pending choice, or none at all. -/
def choices (session : Session) : List String :=
  match session.mode with
  | .normal => []
  | .choosing options => options.toList

/-- The session with a new pending choice in place of any other.  A choice
without options could not be answered, so it is not taken. -/
def present? (session : Session) (choices : List String) : Option Session :=
  (Options.ofList? choices).map fun options => { session with mode := .choosing options }

def clear (session : Session) : Session :=
  { session with mode := .normal }

end Session
end CardTable
