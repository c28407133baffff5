import CardTable.Launch

/-!
# The program

Reads the configuration that the command line names and reports how the start
ends.  There is no transport to a server in this program, so connecting fails.
-/

open CardTable

/-- What is in a file, if there is one that can be read. -/
def readSource (path : String) : IO Config.Source := do
  try
    return .bytes (← IO.FS.readBinFile path)
  catch _ =>
    return .absent

def main (arguments : List String) : IO UInt32 := do
  let configured ← IO.getEnv Launch.pathVariable
  let path := Launch.configPath arguments configured
  let planned := Launch.plan path (← readSource path)
  let report := Launch.start planned fun plan => .error (plan.unreachable "no transport")
  IO.print (Terminal.text report.shown)
  if let some cause := report.failure then
    IO.eprintln s!"cardterm failed: {cause.code.label}: {cause.message}"
  return UInt32.ofNat report.exitCode
