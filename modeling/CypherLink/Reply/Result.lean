import CypherLink.Value.Access

/-!
What the server answers to a batch of statements: one result per statement, or a list of faults. The
rows of a result are maps from its columns; a column named twice keeps its first place and its last
value.
-/

namespace CypherLink

structure QueryResult where
  columns : List Value
  rows : List (List (Value × Value)) := []
  graphs : List Value := []
  stats : Value := .null

inductive ReplyError where
  | statements (errors : List Value) (summary : String)
  | access (e : AccessError)

def ReplyError.message : ReplyError → String
  | .statements _ summary => "[driver] Statement execution failed: " ++ summary
  | .access e => e.message

/-- Rows are looked up by values. -/
abbrev Row := List (Value × Value)

namespace Row

def put (row : Row) (k v : Value) : Row :=
  match row with
  | [] => [(k, v)]
  | (k', v') :: rest => if k'.sameKey k then (k', v) :: rest else (k', v') :: put rest k v

def find? (row : Row) (k : Value) : Option Value :=
  match row with
  | [] => none
  | (k', v) :: rest => if k'.sameKey k then some v else find? rest k

/-- Pairs columns with values as long as there are both. -/
def ofColumns (columns values : List Value) : Except AccessError Row :=
  (columns.zip values).foldlM (fun row e =>
    match e.1.unhashable? with
    | none => .ok (put row e.1 e.2)
    | some kind => .error (.unhashable kind)) []

end Row

namespace QueryResult

/-- The first column of the first row. -/
def singleValue (r : QueryResult) : Except AccessError Value :=
  match r.rows, r.columns with
  | row :: _, column :: _ =>
    match column.unhashable?, Row.find? row column with
    | some kind, _ => .error (.unhashable kind)
    | none, some v => .ok v
    | none, none => .error (.missingKey column)
  | _, _ => .ok .null

theorem singleValue_of_no_rows (r : QueryResult) (h : r.rows = []) : r.singleValue = .ok .null := by
  simp [singleValue, h]

end QueryResult

namespace Reply

/-- One reported fault, its code before its text. -/
def errorText (e : Value) : Except AccessError String := do
  let code ← e.member? "code"
  let message ← e.member? "message"
  return (code.getD (.text "UnknownError")).shown ++ ": " ++ (message.getD (.text "")).shown

/-- Refuses a reply that reports faults. -/
def checkErrors (reply : Value) : Except ReplyError Unit := do
  let errors ← (reply.member? "errors").mapError .access
  match errors with
  | none => return ()
  | some v =>
    if v.truthy then
      let items ← v.elements.mapError .access
      let texts ← (items.mapM errorText).mapError .access
      throw (.statements items ("; ".intercalate texts))
    else return ()

/-- What one datum adds to a result: its row, and the graph that it holds. -/
def datum (columns : List Value) (r : QueryResult) (d : Value) : Except AccessError QueryResult := do
  let r ←
    if ← d.holds "row" then
      let values ← (← d.member "row").elements
      let row ← Row.ofColumns columns values
      pure { r with rows := r.rows ++ [row] }
    else pure r
  if ← d.holds "graph" then
    return { r with graphs := r.graphs ++ [← d.member "graph"] }
  else return r

def result (v : Value) : Except AccessError QueryResult := do
  let columns ← ((← v.member? "columns").getD (.list [])).elements
  let stats := (← v.member? "stats").getD .null
  let data ← ((← v.member? "data").getD (.list [])).elements
  data.foldlM (datum columns) { columns, stats }

def results (reply : Value) : Except ReplyError (List QueryResult) := do
  checkErrors reply
  let listed : Except AccessError (List Value) := do
    ((← reply.member? "results").getD (.list [])).elements
  (listed.bind fun items => items.mapM result).mapError .access

end Reply

end CypherLink
