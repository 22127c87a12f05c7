import CypherLink.Filter.Fields
import CypherLink.Load.Query
import CypherLink.Log.Entry
import CypherLink.Request.Fields

/-!
A query as it is asked for, and the request that comes of it. Composing a chain of filters leaves a
log entry, so a plan carries the entries beside the request or the reason why there is none.
-/

namespace CypherLink

inductive BuildError where
  | word (e : UnknownWord)
  | field (e : FieldError)
  | noProperty (e : NoProperty)
  | pagination (e : BadPagination)
  | composition (e : CompositionError)
  | access (e : AccessError)
  | invalid (e : Invalid)

namespace BuildError

def ofRequest : RequestError → BuildError
  | .access e => .access e
  | .invalid e => .invalid e

end BuildError

inductive Query where
  | one (id : Value) (depth : Int)
  | byIds (ids : Value) (depth : Int)
  | byType (label : Option String) (ids : Value) (depth : Int) (order : Option SortOrder)
      (page : Option Pagination)
  | everything
  | byProperties (label : Option String) (filters : List Filter) (depth : Int)
      (order : Option SortOrder) (page : Option Pagination)
  | countNodes (labels : List String)
  | countRelationships (start type finish : String)
  | statement (kind : RequestKind) (given : Entries String Value)

namespace Query

def request : Query → Except BuildError Request
  | .one id depth => .ok (Load.one id depth)
  | .byIds ids depth => do return Load.byIds (← (Load.idsOf ids).mapError .access) depth
  | .byType label ids depth order page => do
    return Load.byType label (← (Load.idsOf ids).mapError .access) depth order page
  | .everything => .ok Load.everything
  | .byProperties label filters depth order page =>
    (Load.byProperties label filters depth order page).mapError .composition
  | .countNodes labels => .ok (Load.countNodes labels)
  | .countRelationships start type finish => .ok (Load.countRelationships start type finish)
  | .statement kind given => (Request.ofFields kind given).mapError .ofRequest

end Query

/-- The entry that a successful composition leaves. -/
def Composed.entry (root : String) (filters : List Filter) (c : Composed) : LogEntry :=
  ⟨.debug, .composer, "Composed " ++ toString filters.length ++ " filter(s) on " ++ root ++ ": " ++
    c.text⟩

def Composed.entries (label : Option String) (filters : List Filter) : List LogEntry :=
  match label, Load.composed label filters with
  | some root, .ok c => [c.entry root filters]
  | _, _ => []

structure Plan where
  entries : List LogEntry
  request : Except BuildError Request

namespace Plan

def ofQuery (q : Query) : Plan :=
  match q with
  | .byProperties label filters _ _ _ => ⟨Composed.entries label filters, q.request⟩
  | _ => ⟨[], q.request⟩

/-- A query that could not even be asked leaves no entry. -/
def ofAsked : Except BuildError Query → Plan
  | .ok q => ofQuery q
  | .error e => ⟨[], .error e⟩

theorem request_ofQuery (q : Query) : (ofQuery q).request = q.request := by
  cases q <;> rfl

end Plan

end CypherLink
