/-!
Numbers written in base sixteen, with lower-case digits unless a format asks for capitals.
-/

namespace CypherLink.Hex

def digits (n : Nat) : List Char := Nat.toDigits 16 n

/-- At least `width` digits: zeros are put in front of a shorter number. -/
def padded (width n : Nat) : List Char :=
  List.replicate (width - (digits n).length) '0' ++ digits n

/-- A byte as two capital digits, as they follow a percent sign. -/
def byte (b : UInt8) : List Char := (padded 2 b.toNat).map Char.toUpper

def value? (c : Char) : Option Nat :=
  if '0' ≤ c ∧ c ≤ '9' then some (c.toNat - '0'.toNat)
  else if 'a' ≤ c ∧ c ≤ 'f' then some (c.toNat - 'a'.toNat + 10)
  else if 'A' ≤ c ∧ c ≤ 'F' then some (c.toNat - 'A'.toNat + 10)
  else none

theorem le_length_padded (width n : Nat) : width ≤ (padded width n).length := by
  simp only [padded, List.length_append, List.length_replicate]
  omega

end CypherLink.Hex
