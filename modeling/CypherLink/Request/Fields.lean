import CypherLink.Request.Basic
import CypherLink.Request.Invalid

/-!
Requests from named fields. Two fields have a second name, under which they travel and which wins
when both are given; fields of other names are passed over.
-/

namespace CypherLink

inductive RequestError where
  | access (e : AccessError)
  | invalid (e : Invalid)

namespace Request

/-- The first of the names that is given. -/
def given? (fields : Entries String Value) (names : List String) : Option Value :=
  names.findSome? (Entries.find? fields)

def parametersOf (fields : Entries String Value) : Except AccessError (Entries String Value) :=
  match Entries.find? fields "parameters" with
  | none | some .null => .ok []
  | some (.map entries) => .ok entries
  | some v => .error (.noAttribute v.kind "items")

def ofFields (kind : RequestKind) (fields : Entries String Value) : Except RequestError Request := do
  let parameters ← (parametersOf fields).mapError .access
  let statement : Checked String :=
    match Entries.find? fields "statement" with
    | some v => v.asText "statement"
    | none => .error [⟨.missing, "statement", none⟩]
  let contents : Checked (List String) :=
    match given? fields ["resultDataContents", "result_data_contents"] with
    | some v => v.asTexts "resultDataContents"
    | none => .ok kind.contents
  let includeStats : Checked Bool :=
    match given? fields ["includeStats", "include_stats"] with
    | some v => v.asBool "includeStats"
    | none => .ok false
  match statement, contents, includeStats with
  | .ok s, .ok c, .ok b => return withContents kind s parameters c b
  | s, c, b => throw (.invalid ⟨kind.title, s.faults ++ c.faults ++ b.faults⟩)

/-- A request does not change: giving one of its fields a new value is a fault. -/
def assign (r : Request) (field : String) : Invalid := ⟨r.kind.title, [⟨.frozen, field, none⟩]⟩

end Request

end CypherLink
