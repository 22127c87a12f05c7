import CypherLink.Filter.Basic
import CypherLink.Text.Name
import CypherLink.Text.Occurrence

/-!
Clauses. A match clause names a node or a relationship and collects the predicates on it. Whether it
already has a condition is read off its text.
-/

namespace CypherLink

abbrev Clause := String

namespace Clause

open Name (quoted)

def rootIdentifier : String := "n"

def relationshipIdentifier : String := "r"

def hasWhere (clause : Clause) : Bool := occursIn " WHERE ".toList clause.toList

def node (identifier label : String) : Clause :=
  "MATCH (" ++ identifier ++ ":" ++ quoted label ++ ") "

def leftArrow : Direction → String
  | .incoming => "<"
  | _ => ""

def rightArrow : Direction → String
  | .outgoing => ">"
  | _ => ""

/-- The relationship between the root node and another; it is named only if it is to be bound. -/
def relationship (type : String) (direction : Direction) (identifier : String) (bound : Bool) :
    Clause :=
  "MATCH (" ++ rootIdentifier ++ ")" ++ leftArrow direction ++ "-[" ++
    (if bound then relationshipIdentifier else "") ++ ":" ++ quoted type ++ "]-" ++
    rightArrow direction ++ "(" ++ identifier ++ ") "

theorem hasWhere_append_of_left (clause fragment : String) (h : hasWhere clause = true) :
    hasWhere (clause ++ fragment) = true := by
  simp only [hasWhere, occursIn_iff, String.toList_append] at *
  exact h.trans (List.prefix_append _ _).isInfix

end Clause

end CypherLink
