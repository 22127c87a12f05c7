import CypherLink.Filter.Predicate
import CypherLink.Match.Draft

/-!
Composition of a chain of filters into the match clauses of a statement. The root node is always
matched; each filter adds its predicate to the clause of what it constrains. A chain is refused at
its first filter that has its connective in the wrong place or a shape that cannot be expressed.
-/

namespace CypherLink

inductive CompositionError where
  | misplaced (property : String) (connective : Connective)
  | missing (property : String)
  | alternative (property : String)
  | secondRelationship (property : String)
  | selfReference (label property : String)
  | unknownShape (title : String)
  | notAPoint (e : NotAPoint)
  | noLabel
  deriving DecidableEq

namespace CompositionError

def message : CompositionError → String
  | .misplaced property connective =>
    "[composer] The first filter (property '" ++ property ++
      "') may not specify the BooleanOperator " ++ Connective.vocabulary.name connective ++ "."
  | .missing property =>
    "[composer] BooleanOperator missing for filter with property name " ++ property ++
      ". Only the first filter may not specify the BooleanOperator."
  | .alternative property =>
    "[composer] OR is not supported for nested properties on an entity (property '" ++ property ++
      "')"
  | .secondRelationship property =>
    "[composer] Only one relationship entity filter is supported per query (property '" ++
      property ++ "')"
  | .selfReference label property =>
    "[composer] Nested label '" ++ label ++
      "' is the root label; self-referencing nested filters are not supported (property '" ++
      property ++ "')"
  | .unknownShape title => "Unknown filter shape: " ++ title
  | .notAPoint e => e.message
  | .noLabel => "'NoneType' object has no attribute 'replace'"

/-- The property of the filter at fault, where the chain is at fault and not a single value. -/
def property? : CompositionError → Option String
  | .misplaced property _ | .missing property | .alternative property
  | .secondRelationship property | .selfReference _ property => some property
  | _ => none

end CompositionError

/-- The match clauses of a filtered statement, and the parameters that they name. -/
structure Composed where
  text : String
  parameters : Entries String Value

namespace Composed

/-- Only the first filter stands without a connective. -/
def checkConnective (f : Filter) (position : Nat) : Except CompositionError Unit :=
  if position = 0 then
    if f.connective = .none then .ok () else .error (.misplaced f.property f.connective)
  else if f.connective = .none then .error (.missing f.property)
  else .ok ()

def farIdentifier (sequence : Nat) : String := "m" ++ toString sequence

/-- The clause that a filter's predicate belongs to, and the identifier the predicate uses. -/
def target (root : String) (f : Filter) (sequence : Nat) (d : Draft) :
    Except CompositionError (Draft × Nat × String) :=
  match f.subject with
  | .relationship _ type direction =>
    if f.connective = .or then .error (.alternative f.property)
    else if d.bound then .error (.secondRelationship f.property)
    else
      let clause := Clause.relationship type direction (farIdentifier sequence) true
      let (d, i) := { d with bound := true }.putMatch type clause
      .ok (d, i, Clause.relationshipIdentifier)
  | .node _ label type direction =>
    if f.connective = .or then .error (.alternative f.property)
    else if label = root then .error (.selfReference label f.property)
    else
      let (d, identifier) :=
        match Entries.find? d.identifiers label with
        | some identifier => (d, identifier)
        | none =>
          let identifier := farIdentifier sequence
          let named := { d with identifiers := Entries.put d.identifiers label identifier }
          let clause := Clause.relationship type direction identifier false
          ((named.putRelationship label type clause).1, identifier)
      let (d, i) := d.matchClause label identifier
      .ok (d, i, identifier)
  | .root =>
    let (d, i) := d.matchClause root Clause.rootIdentifier
    .ok (d, i, Clause.rootIdentifier)
  | .unspecified => .error (.unknownShape f.subject.title)

/-- Adds one filter to the draft. -/
def addFilter (root : String) (position sequence : Nat) (d : Draft) (f : Filter) :
    Except CompositionError Draft := do
  checkConnective f position
  let (d, i, identifier) ← target root f sequence d
  let d := d.append i (f.render identifier (!(d.clause i).hasWhere) position)
  let new ← (f.parameters position).mapError .notAPoint
  return { d with parameters := Entries.putAll d.parameters new }

/-- Adds filters in order; `sequence` counts the nested ones met so far. -/
def addFilters (root : String) (position sequence : Nat) (d : Draft) :
    List Filter → Except CompositionError Draft
  | [] => .ok d
  | f :: fs => do
    let d ← addFilter root position sequence d f
    addFilters root (position + 1) (if f.isNested then sequence + 1 else sequence) d fs

/-- The draft that holds nothing but the clause of the root node. -/
def start (root : String) : Draft := (Draft.matchClause {} root Clause.rootIdentifier).1

def compose (root : String) (filters : List Filter) : Except CompositionError Composed := do
  let d ← addFilters root 0 0 (start root) filters
  return ⟨d.render, d.parameters⟩

theorem compose_nil (root : String) :
    compose root [] = .ok ⟨Clause.node Clause.rootIdentifier root, []⟩ := by
  simp [compose, addFilters, start, Draft.matchClause, Draft.make, Draft.render, Draft.clause,
    Entries.find?, Entries.put, String.join, pure, Except.pure, bind, Except.bind]

end Composed

end CypherLink
