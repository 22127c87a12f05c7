import CypherLink.Filter.Basic
import CypherLink.Text.Name

/-!
The text of a filter and the parameters it binds. Values never enter the text: a binary comparison
names a parameter, and the value is bound to that name.
-/

namespace CypherLink

/-- A distance was to be compared with something that is no point. -/
structure NotAPoint where
  found : Kind
  deriving DecidableEq

def NotAPoint.message (e : NotAPoint) : String :=
  "DistanceComparison needs a DistanceFromPoint value, got " ++ e.found.name

namespace Filter

open Name (quoted placeholder)

/-- The part of a name after its last underscore, or all of it. -/
def lastPart (name : List Char) : List Char := (name.reverse.takeWhile (· ≠ '_')).reverse

theorem lastPart_append {suffix : List Char} (head : List Char) (h : '_' ∉ suffix) :
    lastPart (head ++ '_' :: suffix) = suffix := by
  have hs : ∀ c ∈ suffix.reverse, decide (c ≠ '_') = true := by
    rintro c hc
    have hne : c ≠ '_' := by
      rintro rfl
      exact h (List.mem_reverse.mp hc)
    simpa using hne
  simp only [lastPart, List.reverse_append, List.reverse_cons, List.append_assoc]
  rw [List.takeWhile_append_of_pos hs]
  simp

def suffix (parameter : String) : String := String.ofList (lastPart parameter.toList)

def latitudeName (parameter : String) : String := "lat_" ++ suffix parameter

def longitudeName (parameter : String) : String := "lon_" ++ suffix parameter

def distanceName (parameter : String) : String := "distance_" ++ suffix parameter

def propertyExpression (f : Filter) (identifier parameter : String) : String :=
  let property := identifier ++ "." ++ quoted f.property
  match f.comparison with
  | .present => "exists(" ++ property ++ ") "
  | .isNull => property ++ " IS NULL "
  | .isTrue => property ++ " = true "
  | comparison => property ++ " " ++ comparison.symbol ++ " " ++ placeholder parameter ++ " "

def distanceExpression (f : Filter) (identifier parameter : String) : String :=
  "distance(point(" ++ identifier ++ "),point(\x7blatitude:" ++
    placeholder (latitudeName parameter) ++ ", longitude:" ++
    placeholder (longitudeName parameter) ++ "\x7d)) " ++ f.comparison.symbol ++ " " ++
    placeholder (distanceName parameter) ++ " "

/-- The predicate, with one blank at its end. -/
def expression (f : Filter) (identifier parameter : String) : String :=
  match f.measure with
  | .property => f.propertyExpression identifier parameter
  | .distance => f.distanceExpression identifier parameter

def bindings (f : Filter) (parameter : String) : Except NotAPoint (Entries String Value) :=
  match f.measure with
  | .property => .ok (if f.comparison.isUnary then [] else [(parameter, f.value)])
  | .distance =>
    match f.value with
    | .point latitude longitude distance =>
      .ok [(latitudeName parameter, latitude), (longitudeName parameter, longitude),
        (distanceName parameter, distance)]
    | v => .error ⟨v.kind⟩

def parameters (f : Filter) (index : Int) : Except NotAPoint (Entries String Value) :=
  f.bindings (f.parameterName index)

def dropTrailingBlanks (cs : List Char) : List Char := (cs.reverse.dropWhile (· = ' ')).reverse

theorem dropTrailingBlanks_blank (cs : List Char) (h : cs.getLast? ≠ some ' ') :
    dropTrailingBlanks (cs ++ [' ']) = cs := by
  rw [← List.head?_reverse] at h
  have hd : cs.reverse.dropWhile (· = ' ') = cs.reverse := by
    cases hr : cs.reverse with
    | nil => rfl
    | cons c rest => simp_all
  simp [dropTrailingBlanks, hd]

/-- The predicate, wrapped when the filter is negated. -/
def fragment (f : Filter) (identifier parameter : String) : String :=
  let text := f.expression identifier parameter
  if f.negated then "NOT(" ++ String.ofList (dropTrailingBlanks text.toList) ++ ") " else text

/-- The word that joins a predicate to its clause: the first one opens the condition. -/
def introduction (f : Filter) (first : Bool) : String :=
  if first then "WHERE " else f.connective.symbol ++ " "

def render (f : Filter) (identifier : String) (first : Bool) (index : Int) : String :=
  f.introduction first ++ f.fragment identifier (f.parameterName index)

end Filter

end CypherLink
