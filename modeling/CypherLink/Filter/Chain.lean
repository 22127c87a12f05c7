import CypherLink.Filter.Basic
import CypherLink.Value.Equality

/-!
Chains of filters: access by place, equality, and how they are shown. A negative place counts from
the end. Two filters are equal when their shape and fields are; what they measure is not compared.
-/

namespace CypherLink

abbrev Chain := List Filter

namespace Filter

def measureShown : Measure → String
  | .property => "<src.cypher.filters.PropertyComparison object>"
  | .distance => "<src.cypher.filters.DistanceComparison object>"

def subjectShown : Subject → String
  | .node via label relationship direction =>
    ", nested_property_name=" ++ Literal.shown via ++ ", nested_entity_label=" ++
      Literal.shown label ++ ", relationship_type=" ++ Literal.shown relationship ++
      ", relationship_direction=" ++ Direction.vocabulary.shown direction
  | .relationship via relationship direction =>
    ", nested_property_name=" ++ Literal.shown via ++ ", relationship_type=" ++
      Literal.shown relationship ++ ", relationship_direction=" ++
      Direction.vocabulary.shown direction
  | _ => ""

def shown (f : Filter) : String :=
  f.subject.title ++ "(property_name=" ++ Literal.shown f.property ++ ", value=" ++
    f.value.literal ++ ", comparison=" ++ Comparison.vocabulary.shown f.comparison ++
    ", boolean_operator=" ++ Connective.vocabulary.shown f.connective ++ ", negated=" ++
    (Value.bool f.negated).literal ++ ", function=" ++ measureShown f.measure ++
    subjectShown f.subject ++ ")"

def agrees (f g : Filter) : Bool :=
  f.subject = g.subject && f.property = g.property && f.value.agrees g.value &&
    f.comparison = g.comparison && f.connective = g.connective && f.negated = g.negated

end Filter

/-- No filter stands at the place asked for. -/
structure NoSuchPlace where

def NoSuchPlace.message (_ : NoSuchPlace) : String := "tuple index out of range"

namespace Chain

def place? (chain : Chain) (index : Int) : Option Nat :=
  let i := if index < 0 then index + chain.length else index
  if 0 ≤ i ∧ i < chain.length then some i.toNat else none

def get (chain : Chain) (index : Int) : Except NoSuchPlace Filter :=
  match (place? chain index).bind fun i => chain[i]? with
  | some f => .ok f
  | none => .error {}

/-- Equality of the filters at two places. A filter equals itself whatever its value. -/
def agreeAt (chain : Chain) (i j : Int) : Except NoSuchPlace Bool := do
  let f ← get chain i
  let g ← get chain j
  return place? chain i = place? chain j || f.agrees g

def shown (chain : Chain) : String :=
  "Filters([" ++ ", ".intercalate (chain.map Filter.shown) ++ "])"

theorem get_natCast (chain : Chain) (i : Nat) (h : i < chain.length) :
    get chain i = .ok chain[i] := by
  have h0 : ¬ ((i : Int) < 0) := by omega
  have hp : place? chain i = some i := by
    simp [place?, h0, h]
  simp [get, hp, h]

end Chain

end CypherLink
