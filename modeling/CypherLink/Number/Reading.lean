import CypherLink.Number.Binary64
import CypherLink.Text.Space

/-!
Numbers from text as settings give them: an optional sign, digits with at most one point among or
around them, an optional exponent; or a word for infinity or not-a-number in any case. White space
around the text is ignored, and single underscores may stand between its characters.
-/

namespace CypherLink.Binary64

def isDigit (c : Char) : Bool := '0' ≤ c && c ≤ '9'

def digitsValue (ds : List Char) : Nat := ds.foldl (fun n d => n * 10 + (d.toNat - '0'.toNat)) 0

def splitSign : List Char → Bool × List Char
  | '-' :: cs => (true, cs)
  | '+' :: cs => (false, cs)
  | cs => (false, cs)

def wordValue (negative : Bool) (word : String) : Option Binary64 :=
  if word = "inf" ∨ word = "infinity" then some (.infinity negative)
  else if word = "nan" then some .nan
  else none

/-- The exponent that is all of the rest of a text. -/
def exponent? (cs : List Char) : Option Int :=
  match cs with
  | [] => some 0
  | c :: rest =>
    let (negative, ds) := splitSign rest
    if (c = 'e' ∨ c = 'E') ∧ ds ≠ [] ∧ ds.all isDigit then
      some (if negative then -(digitsValue ds : Int) else digitsValue ds)
    else none

def plain? (cs : List Char) : Option Binary64 :=
  let (negative, cs) := splitSign cs
  match wordValue negative (String.ofList (cs.map Char.toLower)) with
  | some x => some x
  | none =>
    let (whole, rest) := cs.span isDigit
    let (places, rest) :=
      match rest with
      | '.' :: rest => rest.span isDigit
      | rest => ([], rest)
    if whole.isEmpty && places.isEmpty then none
    else (exponent? rest).map fun e =>
      ofDecimal negative (digitsValue (whole ++ places)) (e - places.length)

/-- Drops underscores, unless one stands at an end or next to another. -/
def withoutUnderscores (cs : List Char) : Option (List Char) :=
  if cs.head? = some '_' ∨ cs.getLast? = some '_' ∨ (cs.zip cs.tail).contains ('_', '_') then none
  else some (cs.filter (· ≠ '_'))

def ofText? (text : String) : Option Binary64 :=
  (plain? (Space.trim Space.isWhite text.toList)).or
    ((withoutUnderscores text.toList).bind fun cs => plain? (Space.trim Space.isWhite cs))

end CypherLink.Binary64
