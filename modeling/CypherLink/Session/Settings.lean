import CypherLink.Number.Reading
import CypherLink.Request.Invalid
import CypherLink.Session.Dotenv

/-!
Settings of a connection. A setting that is given outright wins over the environment, which wins
over the settings file, which wins over the default. In the environment and in the file a setting's
name stands behind a common beginning, in letters of either case.
-/

namespace CypherLink

structure Settings where
  uri : String
  username : String
  password : String
  logLevel : String
  userAgent : String
  timeout : Binary64
  path : String
  deriving DecidableEq

namespace Settings

def title : String := "HttpDriverSettings"

def variableStart : String := "ogm_http_"

def defaults : Settings where
  uri := "http://localhost:7474"
  username := "neo4j"
  password := ""
  logLevel := "INFO"
  userAgent := "neo4j-ogm.py/1.0"
  timeout := Binary64.ofInt 30
  path := "db/data/transaction"

/-- The sources of settings, the strongest first. -/
structure Sources where
  given : Entries String Value := []
  environment : Entries String String := []
  file : String := ""

def lowerKeys {α : Type} (given : Entries String α) : Entries String α :=
  given.foldl (fun m e => Entries.put m (e.1.map Char.toLower) e.2) []

namespace Sources

def fromEnvironment? (s : Sources) (field : String) : Option String :=
  Entries.find? (lowerKeys s.environment) (variableStart ++ field)

def fromFile? (s : Sources) (field : String) : Option String :=
  (Entries.find? (lowerKeys (Dotenv.read s.environment s.file)) (variableStart ++ field)).join

/-- The value of a setting in the strongest source that has one. -/
def find? (s : Sources) (field : String) : Option Value :=
  match Entries.find? s.given field with
  | some v => some v
  | none => ((s.fromEnvironment? field).or (s.fromFile? field)).map .text

end Sources

/-- A number, or a text that reads as one. -/
def asNumber (field : String) (v : Value) : Checked Binary64 :=
  match v with
  | .real x => .ok x
  | .bool b => .ok (Binary64.ofInt (if b then 1 else 0))
  | .int i =>
    match Binary64.ofInt i with
    | .infinity _ => .error [⟨.floatType, field, none⟩]
    | x => .ok x
  | .text s =>
    match Binary64.ofText? s with
    | some x => .ok x
    | none => .error [⟨.floatParsing, field, none⟩]
  | _ => .error [⟨.floatType, field, none⟩]

def text (s : Sources) (field default : String) : Checked String :=
  match s.find? field with
  | some v => v.asText field
  | none => .ok default

def resolve (s : Sources) : Except Invalid Settings :=
  let uri := text s "neo4j_uri" defaults.uri
  let username := text s "neo4j_username" defaults.username
  let password := text s "neo4j_password" defaults.password
  let logLevel := text s "log_level" defaults.logLevel
  let userAgent := text s "user_agent" defaults.userAgent
  let timeout :=
    match s.find? "request_timeout" with
    | some v => asNumber "request_timeout" v
    | none => .ok defaults.timeout
  let path := text s "transaction_path" defaults.path
  match uri, username, password, logLevel, userAgent, timeout, path with
  | .ok uri, .ok username, .ok password, .ok logLevel, .ok userAgent, .ok timeout, .ok path =>
    .ok ⟨uri, username, password, logLevel, userAgent, timeout, path⟩
  | a, b, c, d, e, f, g =>
    .error ⟨title, a.faults ++ b.faults ++ c.faults ++ d.faults ++ e.faults ++ f.faults ++ g.faults⟩

def trimSlashes (cs : List Char) : List Char := Space.trim (· = '/') cs

/-- The server's address and the path, with a slash in between. -/
def endpoint (s : Settings) : String :=
  s.uri ++ (if s.uri.toList.getLast? = some '/' then "" else "/") ++
    String.ofList (trimSlashes s.path.toList)

theorem resolve_nothing : resolve {} = .ok defaults := by rfl

end Settings

end CypherLink
