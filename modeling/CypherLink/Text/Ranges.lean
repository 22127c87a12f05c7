/-!
Sets of characters given by ranges of their code points.
-/

namespace CypherLink

/-- Closed ranges. -/
abbrev Ranges := List (Nat × Nat)

namespace Ranges

def has (rs : Ranges) (c : Char) : Bool := rs.any fun r => r.1 ≤ c.toNat && c.toNat ≤ r.2

theorem has_append (rs ss : Ranges) (c : Char) : has (rs ++ ss) c = (has rs c || has ss c) := by
  simp [has]

/-- Closed ranges that hold only every so many code points, counted from the first. -/
abbrev Stepped := List (Nat × Nat × Nat)

def Stepped.has (rs : Stepped) (c : Char) : Bool :=
  rs.any fun r => r.1 ≤ c.toNat && c.toNat ≤ r.2.1 && (c.toNat - r.1) % r.2.2 = 0

/-- Closed ranges with something that holds for each. -/
abbrev Keyed (α : Type) := List (Nat × Nat × α)

/-- What the first range that holds the character has with it. -/
def Keyed.get? {α : Type} (rs : Keyed α) (c : Char) : Option α :=
  (List.find? (fun r => r.1 ≤ c.toNat && c.toNat ≤ r.2.1) rs).map fun r => r.2.2

end Ranges

end CypherLink
