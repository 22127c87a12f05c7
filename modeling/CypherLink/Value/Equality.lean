import CypherLink.Value.Basic

/-!
When two values are equal. Truth values count as the numbers one and zero, integers and
floating-point numbers are compared as numbers, maps and sets without regard to order.
-/

namespace CypherLink.Value

def integer? : Value → Option Int
  | .bool b => some (if b then 1 else 0)
  | .int i => some i
  | .real x => x.toInt?
  | _ => none

/-- Equality of numbers; `none` unless both values are numbers. -/
def numbersAgree? : Value → Value → Option Bool
  | .real x, .real y => some (x.agrees y)
  | .real x, .bool b => some (x.toInt? = (Value.bool b).integer?)
  | .real x, .int i => some (x.toInt? = some i)
  | .bool b, .real x => some (x.toInt? = (Value.bool b).integer?)
  | .int i, .real x => some (x.toInt? = some i)
  | .bool b, .bool c => some (b = c)
  | .int i, .int j => some (i = j)
  | .bool b, .int i => some ((Value.bool b).integer? = some i)
  | .int i, .bool b => some ((Value.bool b).integer? = some i)
  | _, _ => none

def setItems? : Value → Option (List Value)
  | .set items | .frozen items => some items
  | _ => none

mutual

def agrees : Value → Value → Bool
  | .null, .null => true
  | .text s, .text t => s = t
  | .list xs, .list ys => agreesAll xs ys
  | .tuple xs, .tuple ys => agreesAll xs ys
  | .map xs, .map ys => xs.length = ys.length && agreesEntries xs ys
  | .set xs, y | .frozen xs, y =>
    match y.setItems? with
    | some ys => xs.length = ys.length && containedIn xs ys
    | none => false
  | .point a b c, .point a' b' c' => agrees a a' && agrees b b' && agrees c c'
  | x, y => (numbersAgree? x y).getD false
termination_by structural x => x

def agreesAll : List Value → List Value → Bool
  | [], [] => true
  | x :: xs, y :: ys => agrees x y && agreesAll xs ys
  | _, _ => false
termination_by structural xs => xs

def agreesEntries : List (String × Value) → List (String × Value) → Bool
  | [], _ => true
  | (k, x) :: xs, ys =>
    (match Entries.find? ys k with
      | some y => agrees x y
      | none => false) && agreesEntries xs ys
termination_by structural xs => xs

def containedIn : List Value → List Value → Bool
  | [], _ => true
  | x :: xs, ys => ys.any (fun y => agrees x y) && containedIn xs ys
termination_by structural xs => xs

end

/-- Whether two values are the same key of a map. Here not-a-number is itself. -/
def sameKey : Value → Value → Bool
  | .real .nan, .real .nan => true
  | x, y => x.agrees y

end CypherLink.Value
