import CypherLink.Session.Transaction

/-!
A sample of a filtered load: persons by name and age who work at a given company, two hops deep. The
payload is shown; where the environment configures a server, the request is also run there.
-/

namespace CypherLink.Sample

def label : String := "Person"

def depth : Int := 2

def filters : List Filter :=
  [⟨"name", .text "Tom", .equal, .none, false, .property, .root⟩,
    ⟨"age", .int 30, .greater, .and, false, .property, .root⟩,
    ⟨"name", .text "Acme", .equal, .and, false, .property,
      .node "employer" "Company" "WORKS_AT" .outgoing⟩]

def plan : Plan := .ofQuery (.byProperties (some label) filters depth none none)

/-- The variable whose presence, in exactly this spelling, asks for the request to be run. -/
def serverVariable : String := "OGM_HTTP_NEO4J_URI"

structure Report where
  output : String := ""
  sent : List Sent := []
  log : List LogEntry := []
  root : RootLogger := {}
  failure : Option Failure := none

def shownPayload (r : Request) : Except Failure String := do
  let payload ← r.payload.mapError .access
  let text ← (Json.write Json.indented payload.toValue).mapError .write
  return text ++ "\n"

def counts (r : QueryResult) : String :=
  toString r.rows.length ++ " row(s), " ++ toString r.graphs.length ++ " graph(s)\n"

/-- Runs the request in a transaction that commits by itself. -/
def execute (r : Request) : Act QueryResult :=
  Session.whileConnected do
    let i ← Session.begin true
    Session.within i (Session.run i r)

def runOn (settings : Settings) (replies : List Reply) (request : Request) (before : Report) :
    Report :=
  match Session.make settings replies with
  | .error e => { before with failure := some e }
  | .ok s =>
    let (outcome, s) := execute request s
    let after := { before with sent := s.sent, log := before.log ++ s.log }
    match outcome with
    | .ok result => { after with output := before.output ++ counts result }
    | .error e => { after with failure := some e }

def run (sources : Settings.Sources) (replies : List Reply) : Report :=
  match Settings.resolve sources with
  | .error e => { failure := some (.settings e) }
  | .ok settings =>
    let root := RootLogger.configure {} settings.logLevel
    let start : Report := { log := plan.entries, root }
    match RootLogger.refusal? {} settings.logLevel, plan.request with
    | some e, _ => { root, failure := some (.level e) }
    | none, .error e => { start with failure := some (.build e) }
    | none, .ok request =>
      match shownPayload request with
      | .error e => { start with failure := some e }
      | .ok text =>
        let shown := { start with output := text }
        if (Entries.keys sources.environment).contains serverVariable then
          runOn settings replies request shown
        else
          { shown with log := shown.log ++
              [⟨.info, .main, "No server configured; not executing"⟩] }

end CypherLink.Sample
