import CypherLink.Value.Access
import CypherLink.Vocabulary

/-!
Requests: a statement, its parameters, and the form in which the results are wanted. The payload is
what travels: collections among the parameters have become lists, and points have become maps.
-/

namespace CypherLink

inductive ResultShape where
  | graph | graphRow | row
  deriving DecidableEq

def ResultShape.vocabulary : Vocabulary ResultShape where
  title := "ResultShape"
  members := [.graph, .graphRow, .row]
  name
    | .graph => "GRAPH"
    | .graphRow => "GRAPH_ROW"
    | .row => "ROW"
  symbol
    | .graph => "graph"
    | .graphRow => "graph_row"
    | .row => "row"

inductive RequestKind where
  | plain | graph | graphRows | rows
  deriving DecidableEq

namespace RequestKind

def title : RequestKind → String
  | .plain => "Statement"
  | .graph => "GraphModelRequest"
  | .graphRows => "GraphRowListModelRequest"
  | .rows => "RowModelRequest"

def shape : RequestKind → ResultShape
  | .graph => .graph
  | .graphRows => .graphRow
  | .plain | .rows => .row

/-- The result contents asked for unless others are named. -/
def contents : RequestKind → List String
  | .graph => ["graph"]
  | .graphRows => ["row", "graph"]
  | .plain | .rows => ["row"]

end RequestKind

namespace Value

/-- A collection that is a parameter of its own travels as a list. -/
def asParameter (v : Value) : Value :=
  match v.collection? with
  | some items => .list items
  | none => v

theorem asParameter_list (items : List Value) : asParameter (.list items) = .list items := rfl

mutual

/-- Replaces each point by a map. A map cannot be an element of a set. -/
def expanded : Value → Except AccessError Value
  | .list items => do return .list (← expandedAll items)
  | .tuple items => do return .tuple (← expandedAll items)
  | .set items => do
    if holdsPoint items then throw (.unhashable .map) else return .set (← expandedAll items)
  | .frozen items => do
    if holdsPoint items then throw (.unhashable .map) else return .frozen (← expandedAll items)
  | .map entries => do return .map (← expandedEntries entries)
  | .point latitude longitude distance => do
    return .map [("latitude", ← expanded latitude), ("longitude", ← expanded longitude),
      ("distance", ← expanded distance)]
  | v => .ok v

def expandedAll : List Value → Except AccessError (List Value)
  | [] => .ok []
  | v :: vs => do
    let w ← expanded v
    return w :: (← expandedAll vs)

def expandedEntries : List (String × Value) → Except AccessError (List (String × Value))
  | [] => .ok []
  | (k, v) :: rest => do
    let w ← expanded v
    return (k, w) :: (← expandedEntries rest)

/-- Whether one of the values is a point, or a tuple that holds one. -/
def holdsPoint : List Value → Bool
  | [] => false
  | .point _ _ _ :: _ => true
  | .tuple items :: vs => holdsPoint items || holdsPoint vs
  | _ :: vs => holdsPoint vs

end

end Value

structure Request where
  kind : RequestKind
  statement : String
  parameters : Entries String Value
  contents : List String
  includeStats : Bool

structure Payload where
  statement : String
  parameters : Entries String Value
  contents : List String
  includeStats : Bool

namespace Request

def withContents (kind : RequestKind) (statement : String) (parameters : Entries String Value)
    (contents : List String) (includeStats : Bool) : Request :=
  ⟨kind, statement, parameters.map fun e => (e.1, e.2.asParameter), contents, includeStats⟩

def of (kind : RequestKind) (statement : String) (parameters : Entries String Value) : Request :=
  withContents kind statement parameters kind.contents false

def payload (r : Request) : Except AccessError Payload := do
  return ⟨r.statement, ← Value.expandedEntries r.parameters, r.contents, r.includeStats⟩

end Request

def Payload.toValue (p : Payload) : Value :=
  .map [("statement", .text p.statement), ("parameters", .map p.parameters),
    ("resultDataContents", .list (p.contents.map .text)), ("includeStats", .bool p.includeStats)]

end CypherLink
