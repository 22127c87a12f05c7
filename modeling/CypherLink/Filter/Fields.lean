import CypherLink.Filter.Basic

/-!
Filters from named fields. Words are looked up first; then a field that the shape does not have is
refused, and last a field that is missing. Main statement: `build_root`, the fields of a root filter
that are given are the ones it has.
-/

namespace CypherLink

inductive Shape where
  | root | node | relationship | unspecified
  deriving DecidableEq

def Shape.title : Shape → String
  | .root => "RootFilter"
  | .node => "NestedNodeFilter"
  | .relationship => "NestedRelationshipFilter"
  | .unspecified => "Filter"

inductive FieldError where
  | unknownWord (e : UnknownWord)
  | unexpected (shape : Shape) (field : String)
  | missingProperty (shape : Shape)
  | missing (shape : Shape) (fields : List String)

/-- Fields in quotes, joined as in a sentence. -/
def enumerated : List String → String
  | [] => ""
  | [a] => Literal.shown a
  | [a, b] => Literal.shown a ++ " and " ++ Literal.shown b
  | fields =>
    ", ".intercalate (fields.dropLast.map Literal.shown) ++ ", and " ++
      Literal.shown (fields.getLast?.getD "")

def FieldError.message : FieldError → String
  | .unknownWord e => e.message
  | .unexpected shape field =>
    shape.title ++ ".__init__() got an unexpected keyword argument '" ++ field ++ "'"
  | .missingProperty shape =>
    shape.title ++ ".__init__() missing 1 required positional argument: 'property_name'"
  | .missing shape fields =>
    shape.title ++ ".__init__() missing " ++ toString fields.length ++
      " required keyword-only argument" ++ (if fields.length = 1 then "" else "s") ++ ": " ++
      enumerated fields

structure FilterFields where
  shape : Shape
  /-- The names of the fields that are given, in order. -/
  given : List String
  property : Option String
  value : Value
  comparison : Option Value
  connective : Option Value
  negated : Bool
  measure : Measure
  via : Option String
  label : Option String
  relationship : Option String
  direction : Option Value

namespace FilterFields

def word {α : Type} (voc : Vocabulary α) (default : α) (symbol : Option Value) :
    Except FieldError α :=
  match symbol with
  | none => .ok default
  | some v => (voc.lookup v).mapError .unknownWord

/-- The fields that every shape has. -/
def common : List String :=
  ["property_name", "value", "comparison", "boolean_operator", "negated", "function"]

/-- The fields that a shape has besides and cannot do without. -/
def required : Shape → List String
  | .root | .unspecified => []
  | .node => ["nested_property_name", "nested_entity_label", "relationship_type"]
  | .relationship => ["nested_property_name", "relationship_type"]

def optional : Shape → List String
  | .root | .unspecified => []
  | .node | .relationship => ["relationship_direction"]

def isField (shape : Shape) (field : String) : Bool :=
  (common ++ required shape ++ optional shape).contains field

/-- The fields that the shape needs and that are not given. -/
def absent (g : FilterFields) : List String :=
  (required g.shape).filter fun field => !g.given.contains field

def subject (g : FilterFields) (direction : Direction) : Subject :=
  let via := g.via.getD ""
  let label := g.label.getD ""
  let relationship := g.relationship.getD ""
  match g.shape with
  | .root => .root
  | .unspecified => .unspecified
  | .node => .node via label relationship direction
  | .relationship => .relationship via relationship direction

def build (g : FilterFields) : Except FieldError Filter := do
  let comparison ← word Comparison.vocabulary .equal g.comparison
  let connective ← word Connective.vocabulary .none g.connective
  let direction ← word Direction.vocabulary .outgoing g.direction
  match g.given.find? fun field => !isField g.shape field with
  | some field => throw (.unexpected g.shape field)
  | none => pure ()
  match g.property, g.absent with
  | none, _ => throw (.missingProperty g.shape)
  | some _, field :: fields => throw (.missing g.shape (field :: fields))
  | some property, [] =>
    return { property, value := g.value, comparison, connective, negated := g.negated,
             measure := g.measure, subject := g.subject direction }

theorem build_root (property : String) (value : Value) (negated : Bool) (measure : Measure) :
    build ⟨.root, ["property_name", "value"], some property, value, none, none, negated, measure, none,
      none, none, none⟩ = .ok ⟨property, value, .equal, .none, negated, measure, .root⟩ := rfl

end FilterFields

end CypherLink
