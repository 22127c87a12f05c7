import CypherLink.Load.Depth
import CypherLink.Load.Paging
import CypherLink.Match.Compose

/-!
Queries that load nodes: one by its id, several by ids, label or properties, each to some depth; and
the counts of nodes and of relationships.
-/

namespace CypherLink.Load

open Name (quoted)

/-- Without a label, or with an empty one, any node matches. -/
def nodePattern (label : Option String) : String :=
  match label with
  | none => "(n)"
  | some label => if label = "" then "(n)" else "(n:" ++ quoted label ++ ")"

def rootByIds (label : Option String) (ids : List Value) : RootMatch :=
  if ids.isEmpty then ⟨"MATCH " ++ nodePattern label ++ " ", [], false⟩
  else
    ⟨"MATCH " ++ nodePattern label ++ " WHERE id(n) in \x7b ids \x7d ", [("ids", .list ids)], false⟩

def build (root : RootMatch) (depth : Int) (order : Option SortOrder) (page : Option Pagination) :
    Request :=
  let (text, parameters) := paging order page
  (Reach.ofDepth depth).request
    { root with parameters := Entries.putAll root.parameters parameters } text

/-- The ids that a value lists; a value that holds nothing lists none. -/
def idsOf (v : Value) : Except AccessError (List Value) := if v.truthy then v.elements else .ok []

def one (id : Value) (depth : Int) : Request :=
  build ⟨"MATCH (n) WHERE id(n) = \x7b id \x7d ", [("id", id)], false⟩ depth none none

def byIds (ids : List Value) (depth : Int) : Request := build (rootByIds none ids) depth none none

def byType (label : Option String) (ids : List Value) (depth : Int) (order : Option SortOrder)
    (page : Option Pagination) : Request :=
  build (rootByIds label ids) depth order page

/-- Every path of length one. -/
def everything : Request := .of .graph "MATCH p=()-->() RETURN p" []

def composed (label : Option String) (filters : List Filter) : Except CompositionError Composed :=
  match label with
  | some label => Composed.compose label filters
  | none => .error .noLabel

def byProperties (label : Option String) (filters : List Filter) (depth : Int)
    (order : Option SortOrder) (page : Option Pagination) : Except CompositionError Request := do
  let c ← composed label filters
  return build ⟨c.text, c.parameters, true⟩ depth order page

/-- Counts the nodes that carry all the labels. -/
def countNodes (labels : List String) : Request :=
  .of .rows ("MATCH (n" ++ String.join (labels.map fun label => ":" ++ quoted label) ++
    ") RETURN COUNT(n)") []

def countRelationships (start type finish : String) : Request :=
  .of .rows ("MATCH (:" ++ quoted start ++ ")-[r:" ++ quoted type ++ "]->(:" ++ quoted finish ++
    ") RETURN count(r)") []

theorem byType_nil (label : Option String) (depth : Int) (order : Option SortOrder)
    (page : Option Pagination) :
    byType label [] depth order page =
      build ⟨"MATCH " ++ nodePattern label ++ " ", [], false⟩ depth order page := rfl

theorem byType_none (ids : List Value) (depth : Int) :
    byType none ids depth none none = byIds ids depth := rfl

end CypherLink.Load
