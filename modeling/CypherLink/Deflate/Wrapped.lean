import CypherLink.Deflate.Block
import CypherLink.Deflate.Checksum

/-!
Compressed data between a header and a sum over what comes out of it, in the two forms that are in
use: `zlib`, with two bytes in front, and `gzip`, with at least ten and a name.
-/

namespace CypherLink.Deflate.Reader

-- `^` on natural numbers is the built-in power, also where algebra is in scope
attribute [local instance (high)] instPowNat

def zlib : Reader Unit := do
  let method := (← byte).toNat
  let flags := (← byte).toNat
  require ((method * 256 + flags) % 31 = 0) .header
  require (method % 16 = 8) .method
  require (method / 16 ≤ 7) .window
  if flags.testBit 5 then
    let _ ← bytes 4
    fail .dictionary
  inflate
  let sum := wide (← bytes 4).reverse
  require (sum = runningSum (← get).out.toList) .dataSum

/-- Skips text that ends in a zero byte. -/
def skipText : Reader Unit := do
  let s ← get
  match s.bytes.dropWhile (· ≠ 0) with
  | _ :: bytes => set { s with bytes }
  | [] => throw .short

/-- The header of the second form: a mark, the method, flags, a time, two more bytes, and what the
flags announce. -/
def gzipHeader : Reader Unit := do
  let header := (← get).bytes
  require ((← bytes 2) = [0x1F, 0x8B]) .header
  let method ← byte
  let flags := (← byte).toNat
  require (method = 8) .method
  require (flags < 32) .flags
  let _ ← bytes 6
  if flags.testBit 2 then
    let _ ← bytes (wide (← bytes 2))
  if flags.testBit 3 then skipText
  if flags.testBit 4 then skipText
  if flags.testBit 1 then
    let read := header.take (header.length - (← get).bytes.length)
    require (wide (← bytes 2) = remainder read % 65536) .headerSum

def gzip : Reader Unit := do
  gzipHeader
  inflate
  let sum := wide (← bytes 4)
  let out := (← get).out
  require (sum = remainder out.toList) .dataSum
  require (wide (← bytes 4) = out.size % 2 ^ (32 : Nat)) .dataLength

end CypherLink.Deflate.Reader
