import CypherLink.Number.Binary64

/-!
The shortest decimal that reads back as a given number, and its text. Grids of one, two, … 17
significant digits are tried in turn. On each grid the two neighbours of the number are read back;
of two that do the nearer is taken.
-/

namespace CypherLink

-- `^` on natural numbers is the built-in power, also where algebra is in scope
attribute [local instance (high)] instPowNat

/-- `digits · 10 ^ exponent`. -/
structure Decimal where
  digits : Nat
  exponent : Int
  deriving DecidableEq

namespace Decimal

def length (n : Nat) : Nat := (Nat.toDigits 10 n).length

/-- The place of the leading digit of a positive fraction: `10 ^ place ≤ num / den`. -/
def leadingPlace (num den : Nat) : Int :=
  if den ≤ num then (length (num / den) : Int) - 1
  else -(length ((den + num - 1) / num - 1) : Int)

/-- The fraction divided by `10 ^ e`. -/
def scaled (num den : Nat) (e : Int) : Nat × Nat :=
  if 0 ≤ e then (num, den * 10 ^ e.toNat) else (num * 10 ^ (-e).toNat, den)

/-- Of the two neighbours of `num / den` at place `e`, the one that reads back. -/
def neighbour? (x : Binary64) (negative : Bool) (num den : Nat) (e : Int) : Option Decimal :=
  let f := scaled num den e
  let d := f.1 / f.2
  let below := decide (Binary64.ofDecimal negative d e = x)
  let above := decide (Binary64.ofDecimal negative (d + 1) e = x)
  if below && above then
    let r := 2 * (f.1 % f.2)
    some ⟨if r < f.2 ∨ (r = f.2 ∧ d % 2 = 0) then d else d + 1, e⟩
  else if below then some ⟨d, e⟩
  else if above then some ⟨d + 1, e⟩
  else none

theorem ofDecimal_neighbour? {x : Binary64} {negative : Bool} {num den : Nat} {e : Int}
    {d : Decimal} (h : neighbour? x negative num den e = some d) :
    Binary64.ofDecimal negative d.digits d.exponent = x := by
  simp only [neighbour?] at h
  split at h
  · next hb =>
    simp only [Bool.and_eq_true, decide_eq_true_eq] at hb
    obtain rfl := Option.some.inj h
    simp only
    split
    · exact hb.1
    · exact hb.2
  · split at h
    · next hb => obtain rfl := Option.some.inj h; simpa using hb
    · split at h
      · next hb => obtain rfl := Option.some.inj h; simpa using hb
      · simp at h

/-- Drops zeros at the end of the digits. -/
def trim (fuel : Nat) (d : Decimal) : Decimal :=
  match fuel with
  | 0 => d
  | fuel + 1 => if d.digits % 10 = 0 then trim fuel ⟨d.digits / 10, d.exponent + 1⟩ else d

/-- The shortest decimal that reads back as the magnitude of a finite, non-zero number. -/
def shortest (x : Binary64) (negative : Bool) (mantissa : Nat) (exponent : Int) : Decimal :=
  let f := Binary64.fraction mantissa exponent
  let place := leadingPlace f.1 f.2
  match (List.range 17).findSome? fun (k : Nat) => neighbour? x negative f.1 f.2 (place - k) with
  | some d => trim 20 d
  | none => ⟨f.1 * 5 ^ (-exponent).toNat, min exponent 0⟩

/-- How a decimal is laid out: the leading places at which it is still written without exponent. -/
structure Layout where
  leastPlace : Int
  greatestPlace : Int

/-- Numbers from 0.0001 up to, and without, 10 to the 16th are written positionally. -/
def standard : Layout := ⟨-4, 15⟩

def signed (e : Int) : List Char :=
  let n := Nat.toDigits 10 e.natAbs
  (if e < 0 then '-' else '+') :: (List.replicate (2 - n.length) '0' ++ n)

def text (layout : Layout) (d : Decimal) : List Char :=
  let ds := Nat.toDigits 10 d.digits
  let place := (ds.length : Int) - 1 + d.exponent
  if layout.leastPlace ≤ place ∧ place ≤ layout.greatestPlace then
    if place < 0 then '0' :: '.' :: (List.replicate (-place - 1).toNat '0' ++ ds)
    else
      let whole := (place + 1).toNat
      if ds.length ≤ whole then ds ++ List.replicate (whole - ds.length) '0' ++ ['.', '0']
      else ds.take whole ++ '.' :: ds.drop whole
  else
    match ds with
    | [c] => c :: 'e' :: signed place
    | c :: cs => c :: '.' :: (cs ++ 'e' :: signed place)
    | [] => []

end Decimal

namespace Binary64

def minus (negative : Bool) : List Char := if negative then ['-'] else []

/-- A finite number always shows a point or an exponent, so it never reads as an integer. -/
def text : Binary64 → String
  | .nan => "nan"
  | .infinity negative => String.ofList (minus negative ++ ['i', 'n', 'f'])
  | .finite negative m e =>
    String.ofList (minus negative ++
      if m = 0 then ['0', '.', '0']
      else Decimal.text Decimal.standard (Decimal.shortest (.finite negative m e) negative m e))

end Binary64

end CypherLink
