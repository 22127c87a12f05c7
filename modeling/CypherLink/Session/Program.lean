import CypherLink.Session.Transaction

/-!
Programs over a session: sequences of steps on the connection and on named transactions, with scopes
that have a body of their own. A failure ends the body it arises in, unless the step is guarded.
-/

namespace CypherLink

inductive Step where
  | connect
  | close
  | client
  | endpoint
  | begin (name : String) (autoCommit : Bool)
  | run (name : String) (plan : Plan)
  | runMany (name : String) (plans : List Plan)
  | commit (name : String)
  | rollback (name : String)
  | execute (url : String) (plans : List Plan)
  | commitAt (url : String)
  | rollbackAt (url : String)
  | raise (message : String)
  | scope (name : String) (autoCommit : Bool) (body : List Step)
  | within (name : String) (body : List Step)
  | whileConnected (body : List Step)
  | guarded (step : Step)

def Step.isGuarded : Step → Bool
  | .guarded _ => true
  | _ => false

namespace Session

def handle (name : String) : Act Nat := do
  match Entries.find? (← get).names name with
  | some i => return i
  | none => throw (.noTransaction name)

def register (name : String) (i : Nat) : Act Unit :=
  modify fun s => { s with names := Entries.put s.names name i }

/-- Builds the request of a plan, with the log entries that this leaves. -/
def requestOf (plan : Plan) : Act Request := do
  modify fun s => { s with log := s.log ++ plan.entries }
  ofExcept .build plan.request

def record (outcome : Outcome) : Act Unit :=
  modify fun s => { s with inner := s.inner ++ [outcome] }

end Session

open Session in
mutual

def Step.perform : Step → Act Answer
  | .connect => do Session.connect; return .done
  | .close => do Session.close; return .nothing
  | .client => do requireConnected; return .done
  | .endpoint => do return .text (← Session.endpoint)
  | .begin name autoCommit => do
    let i ← Session.begin autoCommit
    register name i
    let t ← transaction i
    return .transaction t.url t.autoCommit
  | .run name plan => do
    let i ← handle name
    return .result (← Session.run i (← requestOf plan))
  | .runMany name plans => do
    let i ← handle name
    return .results (← Session.runMany i (← plans.mapM requestOf))
  | .commit name => do Session.commit (← handle name); return .nothing
  | .rollback name => do Session.rollback (← handle name); return .nothing
  | .execute url plans => do return .results (← Session.execute url (← plans.mapM requestOf))
  | .commitAt url => do Session.commitAt url; return .nothing
  | .rollbackAt url => do Session.rollbackAt url; return .nothing
  | .raise message => throw (.raised message)
  | .scope name autoCommit body => do
    let i ← Session.begin autoCommit
    register name i
    Session.within i (performAll body)
    return .nothing
  | .within name body => do
    Session.within (← handle name) (performAll body)
    return .nothing
  | .whileConnected body => do
    Session.whileConnected (performAll body)
    return .nothing
  | .guarded step => Step.perform step

/-- Performs the steps of a body up to its first failure that no guard keeps in. -/
def performAll : List Step → Act Unit
  | [] => return ()
  | step :: rest => do
    let outcome ← observe (Step.perform step)
    record outcome
    match outcome, step.isGuarded with
    | .error e, false => throw e
    | _, _ => performAll rest

end

/-- What one step of a program shows: its outcome, and what it sent, logged and left behind. -/
structure Report where
  outcome : Outcome
  sent : List Sent
  log : List LogEntry
  statuses : List (String × TransactionStatus)
  inner : List Outcome

namespace Session

def statuses (s : Session) : List (String × TransactionStatus) :=
  s.names.filterMap fun e => (s.transactions[e.2]?).map fun t => (e.1, t.status)

def report (s : Session) (step : Step) : Report × Session :=
  let (outcome, t) := step.perform s
  (⟨outcome, t.sent.drop s.sent.length, t.log.drop s.log.length, t.statuses,
    t.inner.drop s.inner.length⟩, t)

/-- The reports of the steps of a program, each of which is tried whatever came of those before. -/
def reports (s : Session) : List Step → List Report
  | [] => []
  | step :: rest =>
    let (report, s) := s.report step
    report :: s.reports rest

theorem length_reports (s : Session) (steps : List Step) : (s.reports steps).length = steps.length := by
  induction steps generalizing s with
  | nil => rfl
  | cons step rest ih => simp [reports, ih]

end Session

end CypherLink
