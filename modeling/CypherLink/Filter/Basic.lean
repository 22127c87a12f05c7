import CypherLink.Vocabulary

/-!
Filters. A filter compares one property with a value. It constrains the node that a query returns, a
node reached from it over a relationship, or the relationship itself; a chain of filters is linked
by connectives, each of which belongs to the later of the two filters it joins.
-/

namespace CypherLink

inductive Connective where
  | none | and | or
  deriving DecidableEq

inductive Comparison where
  | equal | notEqual | greater | greaterEqual | less | lessEqual | startsWith | endsWith | contains
  | isIn | like | present | isNull | isTrue
  deriving DecidableEq

inductive Direction where
  | incoming | outgoing | undirected
  deriving DecidableEq

namespace Connective

def vocabulary : Vocabulary Connective where
  title := "BooleanOperator"
  members := [.none, .and, .or]
  name
    | .none => "NONE"
    | .and => "AND"
    | .or => "OR"
  symbol
    | .none => ""
    | .and => "AND"
    | .or => "OR"

def symbol (c : Connective) : String := vocabulary.symbol c

end Connective

namespace Comparison

def vocabulary : Vocabulary Comparison where
  title := "ComparisonOperator"
  members := [.equal, .notEqual, .greater, .greaterEqual, .less, .lessEqual, .startsWith, .endsWith,
    .contains, .isIn, .like, .present, .isNull, .isTrue]
  name
    | .equal => "EQUALS"
    | .notEqual => "NOT_EQUALS"
    | .greater => "GREATER_THAN"
    | .greaterEqual => "GREATER_THAN_EQUAL"
    | .less => "LESS_THAN"
    | .lessEqual => "LESS_THAN_EQUAL"
    | .startsWith => "STARTING_WITH"
    | .endsWith => "ENDING_WITH"
    | .contains => "CONTAINING"
    | .isIn => "IN"
    | .like => "MATCHES"
    | .present => "EXISTS"
    | .isNull => "IS_NULL"
    | .isTrue => "IS_TRUE"
  symbol
    | .equal => "="
    | .notEqual => "<>"
    | .greater => ">"
    | .greaterEqual => ">="
    | .less => "<"
    | .lessEqual => "<="
    | .startsWith => "STARTS WITH"
    | .endsWith => "ENDS WITH"
    | .contains => "CONTAINS"
    | .isIn => "IN"
    | .like => "=~"
    | .present => "EXISTS"
    | .isNull => "IS NULL"
    | .isTrue => "IS TRUE"

def symbol (c : Comparison) : String := vocabulary.symbol c

/-- A unary comparison has no right-hand side. -/
def isUnary : Comparison → Bool
  | .present | .isNull | .isTrue => true
  | _ => false

end Comparison

namespace Direction

def vocabulary : Vocabulary Direction where
  title := "RelationshipDirection"
  members := [.incoming, .outgoing, .undirected]
  name
    | .incoming => "INCOMING"
    | .outgoing => "OUTGOING"
    | .undirected => "UNDIRECTED"
  symbol
    | .incoming => "INCOMING"
    | .outgoing => "OUTGOING"
    | .undirected => "UNDIRECTED"

end Direction

theorem Connective.find?_symbol (c : Connective) :
    Connective.vocabulary.find? c.symbol = some c := by
  cases c <;> decide

theorem Comparison.find?_symbol (c : Comparison) :
    Comparison.vocabulary.find? c.symbol = some c := by
  cases c <;> decide

/-- What a filter compares: a property, or the distance of the node's point from a fixed one. -/
inductive Measure where
  | property | distance
  deriving DecidableEq

/-- What a filter constrains. `via` is the property of the returned node that leads there. -/
inductive Subject where
  | root
  | node (via label relationship : String) (direction : Direction)
  | relationship (via relationship : String) (direction : Direction)
  | unspecified
  deriving DecidableEq

namespace Subject

def title : Subject → String
  | .root => "RootFilter"
  | .node _ _ _ _ => "NestedNodeFilter"
  | .relationship _ _ _ => "NestedRelationshipFilter"
  | .unspecified => "Filter"

def via? : Subject → Option String
  | .node via _ _ _ | .relationship via _ _ => some via
  | _ => none

end Subject

structure Filter where
  property : String
  value : Value
  comparison : Comparison
  connective : Connective
  negated : Bool
  measure : Measure
  subject : Subject

namespace Filter

/-- Whether the filter looks beyond the returned node. -/
def isNested (f : Filter) : Bool := f.subject.via?.isSome

/-- The name of the filter's parameter when the filter stands at that place of its chain. -/
def parameterName (f : Filter) (index : Int) : String :=
  match f.subject.via? with
  | some via => via ++ "_" ++ f.property ++ "_" ++ toString index
  | none => f.property ++ "_" ++ toString index

end Filter

end CypherLink
