import CypherLink.Load.Plan
import CypherLink.Log.Level
import CypherLink.Reply.Result
import CypherLink.Session.Wire

/-!
Why an operation on a session fails. Failures of the server and of the way to it, and operations on
a transaction that is no longer open, are reported as the driver's own; the others come from the
values that were to be sent or that came back.
-/

namespace CypherLink

inductive TransactionStatus where
  | pending | committed | rolledBack
  deriving DecidableEq

def TransactionStatus.vocabulary : Vocabulary TransactionStatus where
  title := "TransactionStatus"
  members := [.pending, .committed, .rolledBack]
  name
    | .pending => "OPEN"
    | .committed => "COMMITTED"
    | .rolledBack => "ROLLED_BACK"
  symbol
    | .pending => "OPEN"
    | .committed => "COMMITTED"
    | .rolledBack => "ROLLED_BACK"

inductive Action where
  | run | commit | rollback
  deriving DecidableEq

def Action.name : Action → String
  | .run => "run statements"
  | .commit => "commit"
  | .rollback => "roll back"

inductive Failure where
  | build (e : BuildError)
  | settings (e : Invalid)
  | access (e : AccessError)
  | write (e : Json.WriteError)
  | statements (errors : List Value) (summary : String)
  | transport (method : Method) (url cause : String)
  | status (method : Method) (url : String) (code : Nat)
  | unreadable (url : String) (cause : Response.Unreadable)
  | nested (inMap : Bool)
  | noLocation (endpoint : String)
  | closed (action : Action) (id : String) (status : TransactionStatus)
  | notConnected
  | noUri
  | outage (message : String)
  | raised (message : String)
  | noTransaction (name : String)
  | badUrl (e : UrlError)
  | unknownUrl (url : String)
  | badHost (e : Host.NameError)
  | header (e : HeaderError)
  | level (e : LevelError)

namespace BuildError

def message : BuildError → String
  | .word e => e.message
  | .field e => e.message
  | .noProperty e => e.message
  | .pagination e => e.message
  | .composition e => e.message
  | .access e => e.message
  | .invalid e => e.message

end BuildError

namespace Failure

def ofReply : ReplyError → Failure
  | .statements errors summary => .statements errors summary
  | .access e => .access e

/-- A body that nests too deep is no fault of the exchange. -/
def ofUnreadable (url : String) : Response.Unreadable → Failure
  | .notValue (.nested inMap) => .nested inMap
  | cause => .unreadable url cause

def attempted (method : Method) (url : String) : String :=
  "[driver] Failed to execute request: " ++ method.name ++ " " ++ url

def badLocation (e : UrlError) : String := "Invalid URL in location header: " ++ e.message ++ "."

def message : Failure → String
  | .build e => e.message
  | .settings e => e.message
  | .access e => e.message
  | .write e => e.message
  | .statements errors summary => (ReplyError.statements errors summary).message
  | .transport method url _ => attempted method url
  | .status method url code =>
    attempted method url ++ " returned " ++ toString code ++ " " ++ statusPhrase code
  | .unreadable url _ => "[driver] Response from " ++ url ++ " is not valid JSON"
  | .nested inMap =>
    "maximum recursion depth exceeded while decoding a JSON " ++
      (if inMap then "object" else "array") ++ " from a unicode string"
  | .noLocation endpoint =>
    "[driver] Server did not return a transaction location for " ++ endpoint
  | .closed action id found =>
    "[driver] Cannot " ++ action.name ++ ": transaction " ++ id ++ " is " ++
      TransactionStatus.vocabulary.symbol found
  | .notConnected => "HttpDriver is not connected, call connect() first"
  | .noUri => "OGM_HTTP_NEO4J_URI is not set (env or settings)"
  | .outage message | .raised message => message
  | .noTransaction name => name
  | .badUrl e => e.message
  | .unknownUrl url => "unknown url type: " ++ Literal.shown url
  | .badHost e => e.message
  | .header e => e.message
  | .level e => e.message

/-- Whether the server reported faults in the statements, and so has rolled back. -/
def isStatements : Failure → Bool
  | .statements _ _ => true
  | _ => false

/-- Whether the failure is one that the driver itself reports. -/
def isReported : Failure → Bool
  | .build (.composition e) => e.property?.isSome
  | .statements _ _ | .transport _ _ _ | .status _ _ _ | .unreadable _ _ | .noLocation _
  | .closed _ _ _ => true
  | _ => false

end Failure

end CypherLink
