import CypherLink.Sample

/-!
The command line of the sample. No transport is linked in, so a configured server is never reached.
-/

namespace CypherLink.Main

def variableNames : List String :=
  ["NEO4J_URI", "NEO4J_USERNAME", "NEO4J_PASSWORD", "LOG_LEVEL", "USER_AGENT", "REQUEST_TIMEOUT",
    "TRANSACTION_PATH"].map fun name => "OGM_HTTP_" ++ name

def readEnvironment : IO (Entries String String) := do
  let found ← (variableNames ++ variableNames.map fun name => name.map Char.toLower).mapM
    fun name => do return (← IO.getEnv name).map fun v => (name, v)
  return found.filterMap id

def readSettingsFile : IO String := do
  try IO.FS.readFile ".env" catch _ => return ""

def severityLevel : Severity → Nat
  | .debug => 10
  | .info => 20
  | .warning => 30

def run : IO UInt32 := do
  let environment ← readEnvironment
  let file ← readSettingsFile
  let report := Sample.run { environment, file }
    [.fault "ConnectError" "All connection attempts failed"]
  IO.print report.output
  for entry in report.log do
    if report.root.level ≤ severityLevel entry.severity then IO.eprintln entry.line
  match report.failure with
  | none => return 0
  | some e =>
    IO.eprintln e.message
    return 1

end CypherLink.Main

def main : IO UInt32 := CypherLink.Main.run
