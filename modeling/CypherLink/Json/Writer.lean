import CypherLink.Json.Reader

/-!
Writing a value as wire text. Tuples travel as lists; sets, points, not-a-number, the infinities and
integers of very many digits have no written form and are refused.
-/

namespace CypherLink.Json

inductive WriteError where
  | outOfRange
  | longInteger
  | unwritable (kind : Kind)
  deriving DecidableEq

def WriteError.message : WriteError → String
  | .outOfRange => "Out of range float values are not JSON compliant"
  | .longInteger =>
    "Exceeds the limit (" ++ toString mostDigits ++ " digits) for integer string conversion; " ++
      "use sys.set_int_max_str_digits() to increase the limit"
  | .unwritable kind => "Object of type " ++ kind.name ++ " is not JSON serializable"

/-- How a text is laid out: on one line, or with that much indentation for each level. -/
structure Style where
  indent : Option Nat
  asciiOnly : Bool

/-- The form in which requests are sent. -/
def compact : Style := ⟨none, false⟩

/-- The form in which a payload is shown to a reader. -/
def indented : Style := ⟨some 2, true⟩

def unit (n : Nat) : List Char := '\\' :: 'u' :: Hex.padded 4 n

def escapeChar (asciiOnly : Bool) (c : Char) : List Char :=
  if c = '"' then ['\\', '"']
  else if c = '\\' then ['\\', '\\']
  else if c = '\n' then ['\\', 'n']
  else if c = '\r' then ['\\', 'r']
  else if c = '\t' then ['\\', 't']
  else if c = '\x08' then ['\\', 'b']
  else if c = '\x0c' then ['\\', 'f']
  else if c.toNat < 0x20 then unit c.toNat
  else if asciiOnly && 0x7e < c.toNat then
    if c.toNat < 0x10000 then unit c.toNat
    else
      let n := c.toNat - 0x10000
      unit (0xD800 + n / 0x400) ++ unit (0xDC00 + n % 0x400)
  else [c]

def string (style : Style) (s : String) : List Char :=
  '"' :: (s.toList.flatMap (escapeChar style.asciiOnly) ++ ['"'])

/-- What stands before an element at the given depth. -/
def newline (style : Style) (depth : Nat) : List Char :=
  match style.indent with
  | none => []
  | some n => '\n' :: List.replicate (n * depth) ' '

def colon (style : Style) : List Char := if style.indent.isSome then [':', ' '] else [':']

/-- Elements between brackets, separated by commas; nothing stands between empty brackets. -/
def enclosed (style : Style) (depth : Nat) (opening closing : Char) (parts : List (List Char)) :
    List Char :=
  if parts.isEmpty then [opening, closing]
  else
    opening :: (newline style (depth + 1) ++
      [','].intercalate (parts.mapIdx fun i part =>
        if i = 0 then part else newline style (depth + 1) ++ part) ++
      newline style depth ++ [closing])

mutual

def writeAt (style : Style) (depth : Nat) : Value → Except WriteError (List Char)
  | .null => .ok "null".toList
  | .bool b => .ok (if b then "true" else "false").toList
  | .int i =>
    if mostDigits < (Nat.toDigits 10 i.natAbs).length then .error .longInteger
    else .ok (toString i).toList
  | .real x =>
    match x with
    | .finite _ _ _ => .ok x.text.toList
    | _ => .error .outOfRange
  | .text s => .ok (string style s)
  | .list items | .tuple items => do
    return enclosed style depth '[' ']' (← writeItems style (depth + 1) items)
  | .map entries => do
    return enclosed style depth '\x7b' '\x7d' (← writeMembers style (depth + 1) entries)
  | .set _ => .error (.unwritable .set)
  | .frozen _ => .error (.unwritable .frozen)
  | .point _ _ _ => .error (.unwritable .point)

def writeItems (style : Style) (depth : Nat) : List Value → Except WriteError (List (List Char))
  | [] => .ok []
  | v :: vs => do
    let part ← writeAt style depth v
    return part :: (← writeItems style depth vs)

def writeMembers (style : Style) (depth : Nat) :
    List (String × Value) → Except WriteError (List (List Char))
  | [] => .ok []
  | (k, v) :: rest => do
    let part ← writeAt style depth v
    return (string style k ++ colon style ++ part) :: (← writeMembers style depth rest)

end

def write (style : Style) (v : Value) : Except WriteError String :=
  (writeAt style 0 v).map String.ofList

end CypherLink.Json
