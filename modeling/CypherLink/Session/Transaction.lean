import CypherLink.Session.Basic
import CypherLink.Text.Hex

/-!
Transactions. An explicit one is opened by the server, which says where it is addressed; one that
commits by itself posts to a fixed address and is closed by its first successful run. A transaction
is closed at most once.
-/

namespace CypherLink.Session

/-- Names a transaction in the log: its number in twelve digits. -/
def correlationId (i : Nat) : String := String.ofList (Hex.padded 12 (i + 1))

theorem correlationId_zero : correlationId 0 = "000000000001" := by decide

def noteOn (i : Nat) (message : String) : Act Unit :=
  note .debug .transaction ("[" ++ correlationId i ++ "] " ++ message)

/-- Adds a transaction and gives its number. -/
def addTransaction (url : String) (autoCommit : Bool) : Act Nat := do
  let count := (← get).transactions.length
  modify fun s => { s with transactions := s.transactions ++ [⟨url, autoCommit, .pending⟩] }
  return count

def transaction (i : Nat) : Act Transaction := do
  match (← get).transactions[i]? with
  | some t => return t
  | none => throw (.noTransaction (correlationId i))

def setStatus (i : Nat) (status : TransactionStatus) : Act Unit :=
  modify fun s =>
    { s with transactions := s.transactions.modify i fun t => { t with status := status } }

def begin (autoCommit : Bool) : Act Nat := do
  let url ← endpoint
  if autoCommit then addTransaction (url ++ "/commit") true
  else
    let (r, v) ← sendForValue .post url (some (batch []))
    ofExcept .ofReply (Reply.checkErrors v)
    match r.header? "Location" with
    | none | some "" => throw (.noLocation url)
    | some location =>
      note .debug .http ("Opened transaction " ++ location)
      addTransaction location false

def requirePending (i : Nat) (t : Transaction) (action : Action) : Act Unit :=
  if t.status = .pending then return () else throw (.closed action (correlationId i) t.status)

/-- Runs requests in one round trip. Faults in the statements have rolled the transaction back. -/
def runMany (i : Nat) (requests : List Request) : Act (List QueryResult) := do
  let t ← transaction i
  requirePending i t .run
  noteOn i ("POST " ++ t.url ++ " (" ++ toString requests.length ++ " statement(s))")
  match ← observe (execute t.url requests) with
  | .error e =>
    if e.isStatements then setStatus i .rolledBack
    throw e
  | .ok results =>
    if t.autoCommit then setStatus i .committed
    return results

/-- A reply without results counts as one result without columns. -/
def run (i : Nat) (request : Request) : Act QueryResult := do
  return (← runMany i [request]).head?.getD { columns := [] }

def commit (i : Nat) : Act Unit := do
  let t ← transaction i
  requirePending i t .commit
  if !t.autoCommit then commitAt t.url
  setStatus i .committed
  noteOn i "committed"

def rollback (i : Nat) : Act Unit := do
  let t ← transaction i
  requirePending i t .rollback
  if !t.autoCommit then rollbackAt t.url
  setStatus i .rolledBack
  noteOn i "rolled back"

/-- Leaving a transaction's scope commits it, or rolls it back after a failure, if it is open. -/
def leave (i : Nat) (failed : Bool) : Act Unit := do
  let t ← transaction i
  if t.status = .pending then
    if failed then rollback i else commit i

/-- Runs a body in the scope of a transaction. A failure on leaving takes the place of the body's. -/
def within {α : Type} (i : Nat) (body : Act α) : Act α := do
  match ← observe body with
  | .ok a =>
    leave i false
    return a
  | .error e =>
    leave i true
    throw e

/-- Runs a body while connected, and closes the connection however the body ends. -/
def whileConnected {α : Type} (body : Act α) : Act α := do
  connect
  match ← observe body with
  | .ok a =>
    close
    return a
  | .error e =>
    close
    throw e

end CypherLink.Session
