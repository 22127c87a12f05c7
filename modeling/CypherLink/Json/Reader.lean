import CypherLink.Text.Hex
import CypherLink.Value.Basic

/-!
Reading a value from its wire text. The reader takes the words for not-a-number and the infinities,
keeps integers apart from numbers with a point or an exponent, and lets the last of several equal
keys win. Each step returns what follows; `parse` accepts a text that nothing follows but blanks.
Integers of very many digits and values nested very deep are refused where they are met.
-/

namespace CypherLink.Json

inductive ReadError where
  | malformed
  | longInteger
  | nested (inMap : Bool)
  deriving DecidableEq

/-- The greatest number of digits of an integer. -/
def mostDigits : Nat := 4300

/-- How many lists and maps may stand one inside the other. -/
def deepest : Nat := 970

def expected {α : Type} : Option α → Except ReadError α
  | some a => .ok a
  | none => .error .malformed

def isBlank (c : Char) : Bool := c = ' ' || c = '\t' || c = '\n' || c = '\r'

def skipBlanks (cs : List Char) : List Char := cs.dropWhile isBlank

/-- What follows a given word at the front of a text. -/
def afterWord (word : String) (cs : List Char) : Option (List Char) :=
  if word.toList.isPrefixOf cs then some (cs.drop word.toList.length) else none

def hex4 : List Char → Option (Nat × List Char)
  | a :: b :: c :: d :: rest => do
    let a ← Hex.value? a
    let b ← Hex.value? b
    let c ← Hex.value? c
    let d ← Hex.value? d
    return (((a * 16 + b) * 16 + c) * 16 + d, rest)
  | _ => none

/-- Joins the two halves of a character beyond the first 65536. -/
def joinHalves (high low : Nat) : Char :=
  Char.ofNat (0x10000 + (high - 0xD800) * 0x400 + (low - 0xDC00))

/-- A half that stands alone is no character; the replacement character takes its place. -/
def ofUnit (n : Nat) : Char := if 0xD800 ≤ n ∧ n ≤ 0xDFFF then '\ufffd' else Char.ofNat n

/-- The second half of a pair, when the text goes on with one. -/
def lowHalf (cs : List Char) : Option (Nat × List Char) := do
  let cs ← afterWord "\\u" cs
  let (low, rest) ← hex4 cs
  if 0xDC00 ≤ low ∧ low ≤ 0xDFFF then some (low, rest) else none

def unicodeEscape (cs : List Char) : Option (Char × List Char) := do
  let (n, rest) ← hex4 cs
  if 0xD800 ≤ n ∧ n ≤ 0xDBFF then
    match lowHalf rest with
    | some (low, rest) => some (joinHalves n low, rest)
    | none => some (ofUnit n, rest)
  else some (ofUnit n, rest)

def simpleEscape : Char → Option Char
  | '"' => some '"'
  | '\\' => some '\\'
  | '/' => some '/'
  | 'b' => some '\x08'
  | 'f' => some '\x0c'
  | 'n' => some '\n'
  | 'r' => some '\r'
  | 't' => some '\t'
  | _ => none

/-- Reads a string whose opening quote is gone. A control character may not stand in it. -/
def stringBody (fuel : Nat) (cs : List Char) : Option (List Char × List Char) :=
  match fuel, cs with
  | 0, _ => none
  | _, [] => none
  | fuel + 1, c :: cs =>
    if c = '"' then some ([], cs)
    else if c = '\\' then
      match cs with
      | 'u' :: rest => do
        let (d, rest) ← unicodeEscape rest
        let (s, rest) ← stringBody fuel rest
        return (d :: s, rest)
      | e :: rest => do
        let d ← simpleEscape e
        let (s, rest) ← stringBody fuel rest
        return (d :: s, rest)
      | [] => none
    else if c.toNat < 0x20 then none
    else (stringBody fuel cs).map fun r => (c :: r.1, r.2)

def digitsValue (ds : List Char) : Nat := ds.foldl (fun n d => n * 10 + (d.toNat - '0'.toNat)) 0

def isDigit (c : Char) : Bool := '0' ≤ c && c ≤ '9'

/-- The digits before a point: a zero alone, or as many as there are. -/
def wholePart : List Char → Option (List Char × List Char)
  | '0' :: rest => some (['0'], rest)
  | cs =>
    match cs.takeWhile isDigit with
    | [] => none
    | ds => some (ds, cs.dropWhile isDigit)

/-- The digits after a point, if a point and a digit come next. -/
def fractionPart : List Char → List Char × List Char
  | '.' :: cs =>
    match cs.takeWhile isDigit with
    | [] => ([], '.' :: cs)
    | ds => (ds, cs.dropWhile isDigit)
  | cs => ([], cs)

/-- The exponent, if a mark, perhaps a sign, and a digit come next. -/
def exponentPart (cs : List Char) : Option Int × List Char :=
  match cs with
  | c :: rest =>
    if c = 'e' ∨ c = 'E' then
      let (negative, body) : Bool × List Char :=
        match rest with
        | '+' :: body => (false, body)
        | '-' :: body => (true, body)
        | body => (false, body)
      match body.takeWhile isDigit with
      | [] => (none, cs)
      | ds =>
        let n : Int := digitsValue ds
        (some (if negative then -n else n), body.dropWhile isDigit)
    else (none, cs)
  | [] => (none, [])

/-- A number without a leading zero; it is an integer unless a point or an exponent follows. -/
def magnitude (negative : Bool) (cs : List Char) : Except ReadError (Value × List Char) := do
  let (whole, rest) ← expected (wholePart cs)
  let (places, rest) := fractionPart rest
  let (exponent?, rest) := exponentPart rest
  if places.isEmpty && exponent?.isNone then
    if mostDigits < whole.length then throw .longInteger
    let n : Int := digitsValue whole
    return (.int (if negative then -n else n), rest)
  else
    return (.real (Binary64.ofDecimal negative (digitsValue (whole ++ places))
      (exponent?.getD 0 - places.length)), rest)

def number : List Char → Except ReadError (Value × List Char)
  | '-' :: cs =>
    match afterWord "Infinity" cs with
    | some rest => .ok (.real (.infinity true), rest)
    | none => magnitude true cs
  | cs => magnitude false cs

def words : List (String × Value) :=
  [("null", .null), ("true", .bool true), ("false", .bool false), ("NaN", .real .nan),
    ("Infinity", .real (.infinity false))]

def word (cs : List Char) : Option (Value × List Char) :=
  words.findSome? fun w => (afterWord w.1 cs).map fun rest => (w.2, rest)

mutual

/-- Reads a value; `depth` lists and maps may still be opened. -/
def value (fuel depth : Nat) (cs : List Char) : Except ReadError (Value × List Char) :=
  match fuel with
  | 0 => .error .malformed
  | fuel + 1 =>
    match cs with
    | '"' :: rest => do
      let (s, rest) ← expected (stringBody rest.length.succ rest)
      return (.text (String.ofList s), rest)
    | '[' :: rest =>
      match depth with
      | 0 => .error (.nested false)
      | depth + 1 =>
        match skipBlanks rest with
        | ']' :: rest => .ok (.list [], rest)
        | rest => do
          let (items, rest) ← items fuel depth rest
          return (.list items, rest)
    | '\x7b' :: rest =>
      match depth with
      | 0 => .error (.nested true)
      | depth + 1 =>
        match skipBlanks rest with
        | '\x7d' :: rest => .ok (.map [], rest)
        | rest => do
          let (entries, rest) ← members fuel depth [] rest
          return (.map entries, rest)
    | _ =>
      match word cs with
      | some found => .ok found
      | none => number cs

/-- Reads the elements of a list up to its end; at least one has to come. -/
def items (fuel depth : Nat) (cs : List Char) : Except ReadError (List Value × List Char) :=
  match fuel with
  | 0 => .error .malformed
  | fuel + 1 => do
    let (v, rest) ← value fuel depth (skipBlanks cs)
    match skipBlanks rest with
    | ',' :: rest =>
      let (vs, rest) ← items fuel depth rest
      return (v :: vs, rest)
    | ']' :: rest => return ([v], rest)
    | _ => .error .malformed

/-- Reads the members of a map up to its end into those already read. -/
def members (fuel depth : Nat) (seen : Entries String Value) (cs : List Char) :
    Except ReadError (Entries String Value × List Char) :=
  match fuel with
  | 0 => .error .malformed
  | fuel + 1 =>
    match skipBlanks cs with
    | '"' :: rest => do
      let (k, rest) ← expected (stringBody rest.length.succ rest)
      let rest ← expected (afterWord ":" (skipBlanks rest))
      let (v, rest) ← value fuel depth (skipBlanks rest)
      let seen := Entries.put seen (String.ofList k) v
      match skipBlanks rest with
      | ',' :: rest => members fuel depth seen rest
      | '\x7d' :: rest => return (seen, rest)
      | _ => .error .malformed
    | _ => .error .malformed

end

/-- Reads a text that holds one value and blanks around it. -/
def parseWithin (depth : Nat) (text : List Char) : Except ReadError Value := do
  let (v, rest) ← value (2 * text.length + 2) depth (skipBlanks text)
  if (skipBlanks rest).isEmpty then return v else throw .malformed

def parse (text : List Char) : Except ReadError Value := parseWithin deepest text

theorem parse_nil : parse [] = .error .malformed := by rfl

end CypherLink.Json
