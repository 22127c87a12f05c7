/-!
Sums over bytes that show whether data came through unchanged: the remainder of a division of
polynomials over bits, and a pair of running sums.
-/

namespace CypherLink.Deflate

-- `^` on natural numbers is the built-in power, also where algebra is in scope
attribute [local instance (high)] instPowNat

/-- The divisor, its highest power in the lowest bit. -/
def divisor : UInt32 := 0xEDB88320

def shift (r : UInt32) : UInt32 := if r &&& 1 = 1 then (r >>> 1) ^^^ divisor else r >>> 1

def divideByte (r : UInt32) (b : UInt8) : UInt32 := Nat.repeat shift 8 (r ^^^ b.toUInt32)

def remainder (bytes : List UInt8) : Nat :=
  (bytes.foldl divideByte 0xFFFFFFFF ^^^ 0xFFFFFFFF).toNat

/-- The sum of the bytes and the sum of all such sums up to there, each modulo a prime. -/
def addByte (sums : Nat × Nat) (b : UInt8) : Nat × Nat :=
  let low := (sums.1 + b.toNat) % 65521
  (low, (sums.2 + low) % 65521)

def runningSum (bytes : List UInt8) : Nat :=
  let (low, high) := bytes.foldl addByte (1, 0)
  high * 65536 + low

theorem remainder_nil : remainder [] = 0 := by decide

theorem remainder_digits : remainder [49, 50, 51, 52, 53, 54, 55, 56, 57] = 0xCBF43926 := by
  decide +kernel

theorem runningSum_nil : runningSum [] = 1 := rfl

theorem runningSum_digits : runningSum [49, 50, 51, 52, 53, 54, 55, 56, 57] = 0x091E01DE := by
  decide +kernel

theorem remainder_lt (bytes : List UInt8) : remainder bytes < 2 ^ (32 : Nat) := UInt32.toNat_lt _

end CypherLink.Deflate
