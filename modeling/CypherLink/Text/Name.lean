/-!
Names inside a statement. A label, relationship type, property or parameter name is written between
backticks with every backtick of its own doubled. Main statement: `readInside_escape`, a quoted name
is read back whatever follows it, as long as no backtick does.
-/

namespace CypherLink.Name

def tick : Char := '\x60'

/-- A backtick inside a name is written twice. -/
def escape : List Char → List Char
  | [] => []
  | c :: cs => if c = tick then tick :: tick :: escape cs else c :: escape cs

theorem escape_append (xs ys : List Char) : escape (xs ++ ys) = escape xs ++ escape ys := by
  induction xs with
  | nil => rfl
  | cons c cs ih => by_cases h : c = tick <;> simp [escape, h, ih]

def quoted (name : String) : String := "`" ++ String.ofList (escape name.toList) ++ "`"

theorem toList_quoted (name : String) :
    (quoted name).toList = tick :: (escape name.toList ++ [tick]) := by
  simp [quoted, tick]

/-- What stands in a statement for the parameter of that name. -/
def placeholder (name : String) : String := "\x7b " ++ quoted name ++ " \x7d"

theorem toList_placeholder (name : String) :
    (placeholder name).toList = '\x7b' :: ' ' :: ((quoted name).toList ++ [' ', '\x7d']) := by
  simp [placeholder]

/-- Reads a name whose opening backtick is already gone: the name, and what follows its end. -/
def readInside : List Char → Option (List Char × List Char)
  | [] => none
  | c :: cs =>
    if c = tick then
      match cs with
      | [] => some ([], [])
      | d :: rest =>
        if d = tick then (readInside rest).map fun r => (tick :: r.1, r.2) else some ([], cs)
    else (readInside cs).map fun r => (c :: r.1, r.2)

/-- Reads one quoted name off the front of a text. -/
def read? : List Char → Option (List Char × List Char)
  | [] => none
  | c :: cs => if c = tick then readInside cs else none

theorem readInside_close (rest : List Char) (h : rest.head? ≠ some tick) :
    readInside (tick :: rest) = some ([], rest) := by
  cases rest with
  | nil => simp [readInside]
  | cons d ds => simp_all [readInside]

theorem readInside_cons (c : Char) (cs : List Char) (h : c ≠ tick) :
    readInside (c :: cs) = (readInside cs).map fun r => (c :: r.1, r.2) := by
  rw [readInside.eq_def]
  simp [h]

theorem readInside_escape (name rest : List Char) (h : rest.head? ≠ some tick) :
    readInside (escape name ++ tick :: rest) = some (name, rest) := by
  induction name with
  | nil => exact readInside_close rest h
  | cons c cs ih =>
    by_cases hc : c = tick
    · simp [escape, readInside, hc, ih]
    · simp [escape, hc, readInside_cons, ih]

end CypherLink.Name
