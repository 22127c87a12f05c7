/-!
Reading compressed bytes bit by bit, from the lowest bit of each byte on. Input that breaks off is
no fault: what came out up to there stands.
-/

namespace CypherLink.Deflate

-- `^` on natural numbers is the built-in power, also where algebra is in scope
attribute [local instance (high)] instPowNat

/-- What is wrong with compressed bytes. -/
inductive Fault where
  | header | method | window | dictionary | flags | headerSum
  | blockType | storedLength | tooManySymbols | codeLengths | repetition | noEnd
  | literals | distances | noLength | noDistance | tooFarBack
  | dataSum | dataLength
  deriving DecidableEq

def Fault.detail : Fault → String
  | .header => "incorrect header check"
  | .method => "unknown compression method"
  | .window => "invalid window size"
  | .dictionary => "need dictionary"
  | .flags => "unknown header flags set"
  | .headerSum => "header crc mismatch"
  | .blockType => "invalid block type"
  | .storedLength => "invalid stored block lengths"
  | .tooManySymbols => "too many length or distance symbols"
  | .codeLengths => "invalid code lengths set"
  | .repetition => "invalid bit length repeat"
  | .noEnd => "invalid code -- missing end-of-block"
  | .literals => "invalid literal/lengths set"
  | .distances => "invalid distances set"
  | .noLength => "invalid literal/length code"
  | .noDistance => "invalid distance code"
  | .tooFarBack => "invalid distance too far back"
  | .dataSum => "incorrect data check"
  | .dataLength => "incorrect length check"

def Fault.message (f : Fault) : String :=
  "Error -3 while decompressing data: " ++ f.detail

/-- Why reading ends early. -/
inductive Stop where
  | short
  | fault (f : Fault)
  deriving DecidableEq

/-- The bytes still to be read, what is left of the byte before them, and what came out so far. -/
structure State where
  bytes : List UInt8
  spare : List Bool := []
  out : Array UInt8 := #[]

abbrev Reader := EStateM Stop State

def bitsOf (b : UInt8) : List Bool := (List.range 8).map b.toNat.testBit

/-- The number that bits stand for, the lowest first. -/
def number : List Bool → Nat
  | [] => 0
  | b :: rest => b.toNat + 2 * number rest

/-- The number that bytes stand for, the lowest first. -/
def wide : List UInt8 → Nat
  | [] => 0
  | b :: rest => b.toNat + 256 * wide rest

theorem number_bitsOf : ∀ n < 256, number ((List.range 8).map n.testBit) = n := by decide +kernel

theorem number_lt (bits : List Bool) : number bits < 2 ^ bits.length := by
  induction bits with
  | nil => simp [number]
  | cons b rest ih =>
    have : b.toNat < 2 := b.toNat_lt
    simp only [number, List.length_cons, Nat.pow_succ]
    omega

theorem wide_lt (bytes : List UInt8) : wide bytes < 256 ^ bytes.length := by
  induction bytes with
  | nil => simp [wide]
  | cons b rest ih =>
    have : b.toNat < 256 := b.toNat_lt
    simp only [wide, List.length_cons, Nat.pow_succ]
    omega

/-- How many bits are left. -/
def State.size (s : State) : Nat := s.spare.length + 8 * s.bytes.length

namespace Reader

def fail {α : Type} (f : Fault) : Reader α := throw (.fault f)

def require (holds : Bool) (f : Fault) : Reader Unit := if holds then pure () else fail f

def bit : Reader Bool := do
  let s ← get
  match s.spare, s.bytes with
  | b :: spare, _ =>
    set { s with spare }
    return b
  | [], byte :: bytes =>
    set { s with bytes, spare := (bitsOf byte).tail }
    return byte.toNat.testBit 0
  | [], [] => throw .short

def bits : Nat → Reader (List Bool)
  | 0 => return []
  | n + 1 => return (← bit) :: (← bits n)

def natural (width : Nat) : Reader Nat := return number (← bits width)

/-- Skips what is left of a byte. -/
def align : Reader Unit := modify fun s => { s with spare := [] }

/-- The next whole byte. -/
def byte : Reader UInt8 := do
  let s ← get
  match s.bytes with
  | b :: bytes =>
    set { s with bytes }
    return b
  | [] => throw .short

def bytes : Nat → Reader (List UInt8)
  | 0 => return []
  | n + 1 => return (← byte) :: (← bytes n)

def emit (b : UInt8) : Reader Unit := modify fun s => { s with out := s.out.push b }

/-- Runs a reader on bytes. What it gives is what came out. -/
def expand (r : Reader Unit) (bytes : List UInt8) : Except Fault (List UInt8) :=
  match r.run { bytes } with
  | .ok _ s | .error .short s => .ok s.out.toList
  | .error (.fault f) _ => .error f

end Reader

end CypherLink.Deflate
