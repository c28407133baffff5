import CardTable.Config.Read
import CardTable.Display

namespace CardTable

/-!
# Starting the program

The program finds its configuration, says which room it joins, and connects.  A
configuration that cannot be used ends it before anything is said.
-/

namespace Launch

def standardPath : String :=
  "cardterm.yaml"

def pathVariable : String :=
  "CARDTERM_CONFIG"

/-- The path of the configuration: the first argument, else the value of the
environment variable, else the standard path.  An empty path counts as given. -/
def configPath (arguments : List String) (configured : Option String) : String :=
  (arguments.head?.or configured).getD standardPath

structure Plan where
  identity : Identity
  url : String
  queue : Nat
  deriving DecidableEq, Repr

def planOf (config : Config) : Except Error Plan := do
  let identity ← config.identity
  let url ← config.server.joinUrl identity
  return ⟨identity, url, config.server.outboundQueue⟩

def plan (path : String) (source : Config.Source) : Except Error Plan := do
  planOf (← Config.ofSource path source)

def Plan.announcement (plan : Plan) : Shown :=
  .status s!"Trying to join room {plan.identity.room} as player {plan.identity.player}"

/-- A connection that cannot be made. -/
def Plan.unreachable (plan : Plan) (detail : String) : Error :=
  .internal s!"connect {plan.url} failed: {detail}"

/-- How a start ends: what was displayed, and the failure if there was one. -/
structure Report where
  shown : List Shown := []
  failure : Option Error := none
  deriving DecidableEq, Repr

/-- The exit code: 0 if all went well and 1 otherwise. -/
def Report.exitCode (report : Report) : Nat :=
  if report.failure.isSome then 1 else 0

/-- Start with a plan.  `connect` tells whether a connection can be made. -/
def start (planned : Except Error Plan) (connect : Plan -> Except Error Unit) : Report :=
  match planned with
  | .error cause => { failure := some cause }
  | .ok plan =>
      match connect plan with
      | .error cause => { shown := [plan.announcement], failure := some cause }
      | .ok () => { shown := [plan.announcement] }

/-- Files by name, in one directory. -/
abbrev Directory := List (String × ByteArray)

/-- What a path leads to from inside the directory.  Steps that stay where they
are count for nothing, and a path that ends with such a step names no file. -/
def Directory.find (directory : Directory) (path : String) : Config.Source :=
  let steps := path.toList.splitOnP (· = '/')
  let moves := steps.filter fun step => step ≠ [] && step ≠ ['.']
  let stays := steps.getLast? = some [] || steps.getLast? = some ['.']
  if stays || path.toList.head? = some '/' then .absent
  else
    match directory.lookup (String.ofList (List.intercalate ['/'] moves)) with
    | some bytes => .bytes bytes
    | none => .absent

/-- Start among files when no connection can be made. -/
def unconnected (files : String -> Config.Source) (detail : Plan -> String)
    (arguments : List String) (configured : Option String) : Report :=
  let path := configPath arguments configured
  start (plan path (files path)) fun plan => .error (plan.unreachable (detail plan))

/-- Start inside a directory where no connection can be made. -/
def startOffline (directory : Directory) (arguments : List String) (configured : Option String) :
    Report :=
  unconnected directory.find (fun _ => "no route") arguments configured

end Launch
end CardTable
