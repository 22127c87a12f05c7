import CypherLink.Session.Failure

/-!
A session with one server: whether it is connected, the transactions begun so far, what was sent and
logged, and the replies still to come. Operations run in `Act`; one that fails keeps what it did to
the session before it failed.
-/

namespace CypherLink

structure Transaction where
  url : String
  autoCommit : Bool
  status : TransactionStatus := .pending
  deriving DecidableEq

/-- What an operation gives when it succeeds. -/
inductive Answer where
  | nothing
  | done
  | text (s : String)
  | transaction (url : String) (autoCommit : Bool)
  | result (r : QueryResult)
  | results (rs : List QueryResult)

abbrev Outcome := Except Failure Answer

structure Session where
  settings : Settings
  connected : Bool := false
  transactions : List Transaction := []
  /-- The number of the transaction that each name stands for. -/
  names : Entries String Nat := []
  /-- The replies to the next requests; when there are none left, blank ones follow. -/
  replies : List Reply := []
  sent : List Sent := []
  log : List LogEntry := []
  /-- The outcomes of the steps in scopes, in the order in which they ended. -/
  inner : List Outcome := []

abbrev Act (α : Type) := ExceptT Failure (StateM Session) α

namespace Session

/-- A session can be set up only with the address of a server. -/
def make (settings : Settings) (replies : List Reply) : Except Failure Session :=
  if settings.uri = "" then .error .noUri else .ok { settings, replies }

def ofExcept {ε α : Type} (f : ε → Failure) : Except ε α → Act α
  | .ok a => pure a
  | .error e => throw (f e)

/-- The outcome of an operation as a value. -/
def observe {α : Type} (act : Act α) : Act (Except Failure α) := fun s =>
  let (outcome, s) := act s
  (.ok outcome, s)

def note (severity : Severity) (logger : Logger) (message : String) : Act Unit :=
  modify fun s => { s with log := s.log ++ [⟨severity, logger, message⟩] }

/-- What is to stand in a header has to be ASCII. -/
def requireAscii (text : String) : Act Unit :=
  match Ascii.fault? text.toList with
  | some fault => throw (.header (.notAscii fault))
  | none => pure ()

def connect : Act Unit := do
  let s ← get
  if s.connected then return ()
  requireAscii s.settings.userAgent
  set { s with connected := true }
  note .info .http ("HTTP driver ready for " ++ s.settings.uri)

def close : Act Unit := do
  let s ← get
  if s.connected then
    set { s with connected := false }
    note .info .http "HTTP driver closed"

def requireConnected : Act Unit := do
  if !(← get).connected then throw .notConnected

/-- Takes the next reply off the session. -/
def nextReply : Act Reply := do
  let s ← get
  match s.replies with
  | [] => return .blank
  | r :: rest =>
    set { s with replies := rest }
    return r

/-- Hands one request to the transport and takes the reply. -/
def exchange (method : Method) (url : Url) (body : String) : Act Reply := do
  modify fun s => { s with sent := s.sent ++ [s.settings.sent method url body] }
  nextReply

def payloadText (payload : Option Value) : Except Json.WriteError String :=
  match payload with
  | none => .ok ""
  | some v => Json.write Json.compact v

/-- Sees where a redirect of a request to `target` leads; `url` is the address as it was given. -/
def checkRedirect (method : Method) (url : String) (target : Url) (location : String) : Act Unit :=
  match target.follow location with
  | .ok _ => pure ()
  | .error (.location e) => do
    note .warning .http ("Caught transport exception: " ++ Failure.badLocation e)
    throw (.transport method url "RemoteProtocolError")
  | .error (.goal e) => throw (.badUrl e)
  | .error (.hostName e) => throw (.badHost e)
  | .error (.site fault) => throw (.header (.notAscii fault))

/-- Sends one request. A response counts only below status 300; it comes with the address used. -/
def send (method : Method) (url : String) (payload : Option Value) : Act (Url × Response) := do
  requireConnected
  let target ← ofExcept .badUrl (Url.target url)
  let body ← ofExcept .write (payloadText payload)
  requireAscii target.site
  match ← exchange method target body with
  | .outage message => throw (.outage message)
  | .misheaded e => throw (.header e)
  | .fault name message =>
    note .warning .http ("Caught transport exception: " ++ message)
    throw (.transport method url name)
  | .response r =>
    if !target.isAbsolute then throw (.unknownUrl target.text)
    if let some location := r.location? then checkRedirect method url target location
    note .debug .http ("Status code: " ++ toString r.status)
    if 300 ≤ r.status then
      note .warning .http (method.name ++ " " ++ url ++ " returned " ++ toString r.status)
      throw (.status method url r.status)
    return (target, r)

/-- Sends one request and reads the value in the response. -/
def sendForValue (method : Method) (url : String) (payload : Option Value) :
    Act (Response × Value) := do
  let (target, r) ← send method url payload
  let v ← ofExcept (.ofUnreadable target.text) r.value
  return (r, v)

/-- The body that carries statements. -/
def batch (payloads : List Payload) : Value :=
  .map [("statements", .list (payloads.map Payload.toValue))]

def endpoint : Act String := do return (← get).settings.endpoint

/-- The address at which a transaction is committed. -/
def commitUrl (url : String) : String :=
  String.ofList (Space.trimRight (· = '/') url.toList) ++ "/commit"

def postStatement (url : String) (r : Request) : Act Unit :=
  note .debug .http ("POST " ++ url ++ ", request: " ++ r.statement)

def execute (url : String) (requests : List Request) : Act (List QueryResult) := do
  let payloads ← ofExcept .access (requests.mapM Request.payload)
  requests.forM (postStatement url)
  let (_, v) ← sendForValue .post url (some (batch payloads))
  ofExcept .ofReply (Reply.results v)

def commitAt (url : String) : Act Unit := do
  let (_, v) ← sendForValue .post (commitUrl url) (some (batch []))
  ofExcept .ofReply (Reply.checkErrors v)

def rollbackAt (url : String) : Act Unit := do
  let _ ← send .delete url none

end Session

end CypherLink
