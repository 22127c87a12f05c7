import CypherLink.Deflate.Code

/-!
Compressed data comes in blocks. A block holds its bytes as they are, or as symbols of two codes: a
symbol of the first is a byte, the end of the block, or the length of a stretch that came out
before; a symbol of the second, behind a length, tells how far back that stretch begins.
-/

namespace CypherLink.Deflate

/-- Ranges of numbers that follow on each other, as their starts and the bits that count within. -/
def ranges (start : Nat) : List Nat → List (Nat × Nat)
  | [] => []
  | width :: rest => (start, width) :: ranges (start + 2 ^ width) rest

def lengthRanges : List (Nat × Nat) :=
  ranges 3 [0, 0, 0, 0, 0, 0, 0, 0, 1, 1, 1, 1, 2, 2, 2, 2, 3, 3, 3, 3, 4, 4, 4, 4, 5, 5, 5, 5] ++
    [(258, 0)]

def distanceRanges : List (Nat × Nat) :=
  ranges 1 [0, 0, 0, 0, 1, 1, 2, 2, 3, 3, 4, 4, 5, 5, 6, 6, 7, 7, 8, 8, 9, 9, 10, 10, 11, 11, 12,
    12, 13, 13]

theorem length_lengthRanges : lengthRanges.length = 29 := by decide

theorem getLast?_distanceRanges : distanceRanges.getLast? = some (24577, 13) := by decide

/-- Repeats a stretch that begins some bytes back; it may run into what it repeats. -/
def extend (distance : Nat) : Nat → Array UInt8 → Array UInt8
  | 0, out => out
  | length + 1, out => extend distance length (out.push (out.getD (out.size - distance) 0))

theorem size_extend (distance length : Nat) (out : Array UInt8) :
    (extend distance length out).size = out.size + length := by
  induction length generalizing out with
  | zero => rfl
  | succ n ih =>
    simp only [extend, ih, Array.size_push]
    omega

/-- The codes of a block. -/
structure Codes where
  lengths : Code
  distances : Code

/-- The codes of blocks that bring none. -/
def Codes.fixed : Codes where
  lengths :=
    Code.build (List.replicate 144 8 ++ List.replicate 112 9 ++ List.replicate 24 7 ++
      List.replicate 8 8)
  distances := Code.build (List.replicate 32 5)

/-- The order in which a block gives the lengths for its code of lengths. -/
def lengthOrder : List Nat := [16, 17, 18, 0, 8, 7, 9, 6, 10, 5, 11, 4, 12, 3, 13, 2, 14, 1, 15]

/-- Where no symbol occurs, each bit stands for a length of zero. -/
def codeOfLengths? (lengths : List Nat) : Option Code :=
  if lengths.all (· = 0) then some (.node (.leaf 0) (.leaf 0)) else Code.full? lengths

namespace Reader

def orFail {α : Type} (f : Fault) : Option α → Reader α
  | some a => return a
  | none => fail f

/-- The bytes of a block that holds them as they are. -/
def plain : Nat → Reader Unit
  | 0 => return ()
  | n + 1 => do
    emit (← byte)
    plain n

def stored : Reader Unit := do
  align
  let length := wide (← bytes 2)
  let complement := wide (← bytes 2)
  require (length + complement = 65535) .storedLength
  plain length

def range (table : List (Nat × Nat)) (f : Fault) (i : Nat) : Reader Nat := do
  let (start, width) ← orFail f table[i]?
  return start + (← natural width)

def stretch (length distance : Nat) : Reader Unit := do
  let s ← get
  require (distance ≤ s.out.size) .tooFarBack
  modify fun s => { s with out := extend distance length s.out }

/-- Symbols up to the end of a block; `n` is as large as the number of bits left. -/
def symbols (codes : Codes) : Nat → Reader Unit
  | 0 => throw .short
  | n + 1 => do
    let symbol ← codes.lengths.read .noLength
    if symbol < 256 then
      emit symbol.toUInt8
      symbols codes n
    else if symbol = 256 then return ()
    else
      let length ← range lengthRanges .noLength (symbol - 257)
      let distance ← range distanceRanges .noDistance (← codes.distances.read .noDistance)
      stretch length distance
      symbols codes n

/-- One step in a list of lengths, written from its end: a length, or the repetition of one. -/
def nextLengths (symbol : Nat) (done : List Nat) : Reader (List Nat) :=
  match symbol with
  | 16 => do
    let n ← natural 2
    match done with
    | [] => fail .repetition
    | last :: _ => return List.replicate (3 + n) last ++ done
  | 17 => return List.replicate (3 + (← natural 3)) 0 ++ done
  | 18 => return List.replicate (11 + (← natural 7)) 0 ++ done
  | length => return length :: done

/-- Lengths until there are `total` of them; each of the steps gives at least one. -/
def lengthsUpTo (code : Code) (total : Nat) : Nat → List Nat → Reader (List Nat)
  | 0, done => return done.reverse
  | n + 1, done => do
    if done.length = total then return done.reverse
    let done ← nextLengths (← code.read .codeLengths) done
    require (done.length ≤ total) .repetition
    lengthsUpTo code total n done

def codes : Reader Codes := do
  let literals := 257 + (← natural 5)
  let distances := 1 + (← natural 5)
  let given := 4 + (← natural 4)
  require (literals ≤ 286 && distances ≤ 30) .tooManySymbols
  let widths ← (List.replicate given 3).mapM natural
  let width (symbol : Nat) := ((lengthOrder.zip widths).lookup symbol).getD 0
  let code ← orFail .codeLengths (codeOfLengths? ((List.range 19).map width))
  let total := literals + distances
  let lengths ← lengthsUpTo code total total []
  require (lengths[256]? ≠ some 0) .noEnd
  return {
    lengths := ← orFail .literals (Code.ofLengths? (lengths.take literals))
    distances := ← orFail .distances (Code.ofLengths? (lengths.drop literals)) }

def block : Reader Unit := do
  match ← natural 2 with
  | 0 => stored
  | 1 => symbols .fixed (← get).size
  | 2 => do
    let codes ← codes
    symbols codes (← get).size
  | _ => fail .blockType

/-- Blocks up to the last; `n` is as large as the number of bits left. -/
def blocks : Nat → Reader Unit
  | 0 => throw .short
  | n + 1 => do
    let last ← bit
    block
    if last then align else blocks n

/-- Compressed data that stands alone. -/
def inflate : Reader Unit := do blocks (← get).size

end Reader

end CypherLink.Deflate
