import CypherLink.Text.Literal
import CypherLink.Value.Basic

/-!
Values as messages show them. A text stands for itself, and between quotes inside a collection.
-/

namespace CypherLink.Value

def listed (parts : List String) : String := ", ".intercalate parts

/-- A tuple of one element keeps a comma, which tells it from a bracketed value. -/
def tupled : List String → String
  | [part] => "(" ++ part ++ ",)"
  | parts => "(" ++ listed parts ++ ")"

def braced (parts : List String) : String := "\x7b" ++ listed parts ++ "\x7d"

mutual

def literal : Value → String
  | .null => "None"
  | .bool b => if b then "True" else "False"
  | .int i => toString i
  | .real x => x.text
  | .text s => Literal.shown s
  | .list items => "[" ++ listed (literals items) ++ "]"
  | .map entries => braced (entryLiterals entries)
  | .tuple items => tupled (literals items)
  | .set items => if items.isEmpty then "set()" else braced (literals items)
  | .frozen items =>
    if items.isEmpty then "frozenset()" else "frozenset(" ++ braced (literals items) ++ ")"
  | .point a b c =>
    "DistanceFromPoint(latitude=" ++ literal a ++ ", longitude=" ++ literal b ++
      ", distance=" ++ literal c ++ ")"

def literals : List Value → List String
  | [] => []
  | x :: xs => literal x :: literals xs

def entryLiterals : List (String × Value) → List String
  | [] => []
  | (k, x) :: xs => (Literal.shown k ++ ": " ++ literal x) :: entryLiterals xs

end

def shown : Value → String
  | .text s => s
  | v => v.literal

end CypherLink.Value
