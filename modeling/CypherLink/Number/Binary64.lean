/-!
Floating-point numbers of the 64-bit binary format. A finite number is `± mantissa · 2 ^ exponent`
in lowest exponent form: the mantissa has 53 bits, or fewer at the least exponent. Decimal texts are
read by one exact rounding, to the nearest such number and to the even mantissa of two.
-/

namespace CypherLink

-- `^` on natural numbers is the built-in power, also where algebra is in scope
attribute [local instance (high)] instPowNat

inductive Binary64 where
  | nan
  | infinity (negative : Bool)
  | finite (negative : Bool) (mantissa : Nat) (exponent : Int)
  deriving DecidableEq

namespace Binary64

def leastExponent : Int := -1074

def greatestExponent : Int := 971

def zero (negative : Bool) : Binary64 := .finite negative 0 leastExponent

/-- The quotient rounded to the nearest natural number, a half to the even one. -/
def roundDiv (num den : Nat) : Nat :=
  let q := num / den
  let r := num % den
  if 2 * r < den then q
  else if den < 2 * r then q + 1
  else if q % 2 = 0 then q else q + 1

theorem roundDiv_mul (q den : Nat) (h : 0 < den) : roundDiv (q * den) den = q := by
  simp [roundDiv, Nat.mul_div_cancel q h, h]

/-- `num / den` divided by `2 ^ e`, as a fraction. -/
def scaled (num den : Nat) (e : Int) : Nat × Nat :=
  if 0 ≤ e then (num, den * 2 ^ e.toNat) else (num * 2 ^ (-e).toNat, den)

/-- The number nearest to a positive fraction. -/
def ofFraction (negative : Bool) (num den : Nat) : Binary64 :=
  let low : Int := (Nat.log2 num : Int) - (Nat.log2 den : Int) - 53
  let f := scaled num den low
  let e := max (if 2 ^ (53 : Nat) * f.2 ≤ f.1 then low + 1 else low) leastExponent
  let g := scaled num den e
  let m := roundDiv g.1 g.2
  let r := if m = 2 ^ (53 : Nat) then (2 ^ (52 : Nat), e + 1) else (m, e)
  if greatestExponent < r.2 then .infinity negative
  else .finite negative r.1 (if r.1 = 0 then leastExponent else r.2)

/-- The number nearest to `digits · 10 ^ e`. Beyond 400 decimal places only the size matters. -/
def ofDecimal (negative : Bool) (digits : Nat) (e : Int) : Binary64 :=
  let size := (Nat.toDigits 10 digits).length + e
  if digits = 0 ∨ size < -400 then zero negative
  else if 400 < size then .infinity negative
  else if 0 ≤ e then ofFraction negative (digits * 10 ^ e.toNat) 1
  else ofFraction negative digits (10 ^ (-e).toNat)

def ofInt (i : Int) : Binary64 := ofDecimal (i < 0) i.natAbs 0

/-- The magnitude of a finite number as a fraction. -/
def fraction (mantissa : Nat) (exponent : Int) : Nat × Nat :=
  if 0 ≤ exponent then (mantissa * 2 ^ exponent.toNat, 1) else (mantissa, 2 ^ (-exponent).toNat)

/-- The integer that a number is, if it is one. -/
def toInt? : Binary64 → Option Int
  | .finite negative m e =>
    let f := fraction m e
    if f.1 % f.2 = 0 then some (if negative then -((f.1 / f.2 : Nat) : Int) else (f.1 / f.2 : Nat))
    else none
  | _ => none

def isZero : Binary64 → Bool
  | .finite _ m _ => m = 0
  | _ => false

/-- Numeric equality: the two zeros agree, and not-a-number agrees with nothing. -/
def agrees (x y : Binary64) : Bool := x ≠ .nan && (x = y || (x.isZero && y.isZero))

end Binary64

end CypherLink
