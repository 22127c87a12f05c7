import CypherLink.Entries
import CypherLink.Number.Shortest

/-!
The values that parameters and replies carry: what the wire format knows, and besides it tuples,
sets and points with a radius, which callers may pass as parameters.
-/

namespace CypherLink

inductive Value where
  | null
  | bool (b : Bool)
  | int (i : Int)
  | real (x : Binary64)
  | text (s : String)
  | list (items : List Value)
  | map (entries : List (String × Value))
  | tuple (items : List Value)
  | set (items : List Value)
  | frozen (items : List Value)
  | point (latitude longitude distance : Value)

/-- The kinds of value, as messages name them. -/
inductive Kind where
  | null | bool | int | real | text | list | map | tuple | set | frozen | point
  deriving DecidableEq

def Kind.name : Kind → String
  | .null => "NoneType"
  | .bool => "bool"
  | .int => "int"
  | .real => "float"
  | .text => "str"
  | .list => "list"
  | .map => "dict"
  | .tuple => "tuple"
  | .set => "set"
  | .frozen => "frozenset"
  | .point => "DistanceFromPoint"

namespace Value

def kind : Value → Kind
  | .null => .null
  | .bool _ => .bool
  | .int _ => .int
  | .real _ => .real
  | .text _ => .text
  | .list _ => .list
  | .map _ => .map
  | .tuple _ => .tuple
  | .set _ => .set
  | .frozen _ => .frozen
  | .point _ _ _ => .point

/-- Whether a condition on the value holds: nothing, zero and empty collections do not. -/
def truthy : Value → Bool
  | .null => false
  | .bool b => b
  | .int i => i ≠ 0
  | .real x => !x.isZero
  | .text s => s ≠ ""
  | .list items | .tuple items | .set items | .frozen items => !items.isEmpty
  | .map entries => !entries.isEmpty
  | .point _ _ _ => true

/-- The elements of an unordered or fixed collection, which travels as a list. -/
def collection? : Value → Option (List Value)
  | .tuple items | .set items | .frozen items => some items
  | _ => none

mutual

/-- The kind of what keeps a value from being a key: a list, a map or a set that it is or holds. -/
def unhashable? : Value → Option Kind
  | .list _ => some .list
  | .map _ => some .map
  | .set _ => some .set
  | .tuple items => firstUnhashable? items
  | .point latitude longitude distance =>
    ((unhashable? latitude).or (unhashable? longitude)).or (unhashable? distance)
  | _ => none

def firstUnhashable? : List Value → Option Kind
  | [] => none
  | v :: vs => (unhashable? v).or (firstUnhashable? vs)

end

end Value

end CypherLink
