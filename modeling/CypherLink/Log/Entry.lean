/-!
Log entries and the loggers that write them. An entry about a transaction starts with the
transaction's correlation id.
-/

namespace CypherLink

inductive Severity where
  | debug | info | warning
  deriving DecidableEq

def Severity.name : Severity → String
  | .debug => "DEBUG"
  | .info => "INFO"
  | .warning => "WARNING"

inductive Logger where
  | composer | http | transaction | main
  deriving DecidableEq

def Logger.name : Logger → String
  | .composer => "ogm.cypher.composer"
  | .http => "ogm.driver.http"
  | .transaction => "ogm.driver.transaction"
  | .main => "ogm.main"

structure LogEntry where
  severity : Severity
  logger : Logger
  message : String
  deriving DecidableEq

def LogEntry.line (e : LogEntry) : String :=
  e.severity.name ++ " " ++ e.logger.name ++ " " ++ e.message

end CypherLink
