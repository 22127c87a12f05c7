/-!
From bytes to text. A byte order mark, or else the zero bytes among the first four, tell in which of
the Unicode encodings a body is written; without either it is read as UTF-8.
-/

namespace CypherLink.Encoding

inductive Scheme where
  | utf8
  | utf16 (bigEndian : Bool)
  | utf32 (bigEndian : Bool)
  deriving DecidableEq

/-- The encoding of a body, and the body without its mark. -/
def detect : List UInt8 → Scheme × List UInt8
  | 0 :: 0 :: 0xFE :: 0xFF :: rest => (.utf32 true, rest)
  | 0xFF :: 0xFE :: 0 :: 0 :: rest => (.utf32 false, rest)
  | 0xFE :: 0xFF :: rest => (.utf16 true, rest)
  | 0xFF :: 0xFE :: rest => (.utf16 false, rest)
  | 0xEF :: 0xBB :: 0xBF :: rest => (.utf8, rest)
  | a :: b :: c :: d :: rest =>
    let body := a :: b :: c :: d :: rest
    if a = 0 then if b = 0 then (.utf32 true, body) else (.utf16 true, body)
    else if b = 0 then
      if c = 0 ∧ d = 0 then (.utf32 false, body) else (.utf16 false, body)
    else (.utf8, body)
  | [a, b] =>
    if a = 0 then (.utf16 true, [a, b])
    else if b = 0 then (.utf16 false, [a, b])
    else (.utf8, [a, b])
  | body => (.utf8, body)

/-- Surrogates pass as the replacement character. -/
def ofCode (n : Nat) : Char := if 0xD800 ≤ n ∧ n ≤ 0xDFFF then '\ufffd' else Char.ofNat n

def follows (b : UInt8) : Bool := 0x80 ≤ b && b ≤ 0xBF

def low (b : UInt8) : Nat := b.toNat % 0x40

/-- Each character has one shortest form; longer forms of it are refused. -/
def utf8 : List UInt8 → Option (List Char)
  | [] => some []
  | a :: rest =>
    if a < 0x80 then (utf8 rest).map (Char.ofNat a.toNat :: ·)
    else
      match rest with
      | [] => none
      | b :: rest =>
        if !follows b || a < 0xC2 then none
        else if a < 0xE0 then
          (utf8 rest).map (ofCode (a.toNat % 0x20 * 0x40 + low b) :: ·)
        else
          match rest with
          | [] => none
          | c :: rest =>
            if !follows c || (a = 0xE0 && b < 0xA0) then none
            else if a < 0xF0 then
              (utf8 rest).map (ofCode ((a.toNat % 0x10 * 0x40 + low b) * 0x40 + low c) :: ·)
            else
              match rest with
              | [] => none
              | d :: rest =>
                if !follows d || 0xF4 < a || (a = 0xF0 && b < 0x90) || (a = 0xF4 && 0x8F < b) then
                  none
                else
                  let n := ((a.toNat % 8 * 0x40 + low b) * 0x40 + low c) * 0x40 + low d
                  (utf8 rest).map (ofCode n :: ·)

def pair (bigEndian : Bool) (a b : UInt8) : Nat :=
  if bigEndian then a.toNat * 256 + b.toNat else b.toNat * 256 + a.toNat

/-- Bytes taken two at a time; an odd byte at the end is refused. -/
def units (bigEndian : Bool) : List UInt8 → Option (List Nat)
  | [] => some []
  | [_] => none
  | a :: b :: rest => (units bigEndian rest).map (pair bigEndian a b :: ·)

def ofUnits : List Nat → List Char
  | [] => []
  | [n] => [ofCode n]
  | n :: m :: rest =>
    if 0xD800 ≤ n ∧ n ≤ 0xDBFF ∧ 0xDC00 ≤ m ∧ m ≤ 0xDFFF then
      Char.ofNat (0x10000 + (n - 0xD800) * 0x400 + (m - 0xDC00)) :: ofUnits rest
    else ofCode n :: ofUnits (m :: rest)

def utf32 (bigEndian : Bool) : List UInt8 → Option (List Char)
  | [] => some []
  | a :: b :: c :: d :: rest =>
    let n :=
      if bigEndian then pair true a b * 65536 + pair true c d
      else pair false c d * 65536 + pair false a b
    if 0x10FFFF < n then none else (utf32 bigEndian rest).map (ofCode n :: ·)
  | _ => none

def decode (body : List UInt8) : Option (List Char) :=
  match detect body with
  | (.utf8, rest) => utf8 rest
  | (.utf16 bigEndian, rest) => (units bigEndian rest).map ofUnits
  | (.utf32 bigEndian, rest) => utf32 bigEndian rest

end CypherLink.Encoding
