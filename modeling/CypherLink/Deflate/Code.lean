import CypherLink.Deflate.Bits

/-!
Codes of bits. A code is given by the number of bits for each symbol, zero for one that does not
occur. Among the codes with these numbers it is the one in which shorter sequences come before
longer ones, and those of one length are in the order of their symbols.
-/

namespace CypherLink.Deflate

-- `^` and sums of natural numbers are the built-in ones, also where algebra is in scope
attribute [local instance (high)] instPowNat Zero.ofOfNat0

/-- A code as a tree: 0 leads to the first branch, 1 to the second. -/
inductive Code where
  | gap
  | leaf (symbol : Nat)
  | node (zero one : Code)
  deriving DecidableEq

namespace Code

def longest : Nat := 15

/-- Joins neighbours, as the branches one bit above them. -/
def joined : List Code → List Code
  | [] => []
  | [c] => [.node c .gap]
  | c :: d :: rest => .node c d :: joined rest

theorem length_joined (codes : List Code) : (joined codes).length = (codes.length + 1) / 2 := by
  induction codes using joined.induct with
  | case1 => rfl
  | case2 c => simp [joined]
  | case3 c d rest ih =>
    simp only [joined, List.length_cons, ih]
    omega

def leaves (lengths : List Nat) (length : Nat) : List Code :=
  (lengths.zipIdx.filter (·.1 = length)).map fun p => .leaf p.2

/-- The branches that are some bits above the longest sequences. -/
def branches (lengths : List Nat) : Nat → List Code
  | 0 => leaves lengths longest
  | height + 1 =>
    leaves lengths (longest - (height + 1)) ++ joined (branches lengths height)

/-- What the sequences take of all that are possible, in units of the longest. -/
def weight (lengths : List Nat) : Nat :=
  ((lengths.filter (0 < ·)).map fun n => 2 ^ (longest - n)).sum

def isFull (lengths : List Nat) : Bool := weight lengths = 2 ^ longest

/-- At most one symbol occurs, with one bit. -/
def isBare (lengths : List Nat) : Bool :=
  lengths.all (· ≤ 1) && weight lengths < 2 ^ longest

def build (lengths : List Nat) : Code :=
  match joined (branches lengths (longest - 1)) with
  | c :: _ => c
  | [] => .node .gap .gap

/-- A code in which every sequence of bits leads to a symbol. -/
def full? (lengths : List Nat) : Option Code :=
  if isFull lengths then some (build lengths) else none

/-- A code that is full, or has one symbol at most. -/
def ofLengths? (lengths : List Nat) : Option Code :=
  if isFull lengths || isBare lengths then some (build lengths) else none

theorem full?_eq_some_iff (lengths : List Nat) (c : Code) :
    full? lengths = some c ↔ weight lengths = 2 ^ longest ∧ build lengths = c := by
  simp [full?, isFull]

/-- Reads one symbol; `f` is the fault of bits that lead to none. -/
def read (f : Fault) : Code → Reader Nat
  | .gap => Reader.fail f
  | .leaf symbol => return symbol
  | .node zero one => do
    if ← Reader.bit then one.read f else zero.read f

theorem build_three : build [2, 1, 2] = .node (.leaf 1) (.node (.leaf 0) (.leaf 2)) := by decide

end Code

end CypherLink.Deflate
