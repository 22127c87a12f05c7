/-!
Text from bytes that need not be well formed: the longest beginning of a character that cannot be
completed gives one replacement character.
-/

namespace CypherLink.Utf8

def replacement : Char := '\ufffd'

/-- A character that has begun: its bits so far, the bytes still missing, and the bounds of the
next. -/
structure Begun where
  bits : Nat
  missing : Nat
  low : Nat := 0x80
  high : Nat := 0xbf

/-- What a byte begins: a whole character, a part of one, or nothing. -/
def begin? (b : Nat) : Option (Char ⊕ Begun) :=
  if b < 0x80 then some (.inl (Char.ofNat b))
  else if b < 0xc2 then none
  else if b < 0xe0 then some (.inr { bits := b % 0x20, missing := 1 })
  else if b = 0xe0 then some (.inr { bits := 0, missing := 2, low := 0xa0 })
  else if b = 0xed then some (.inr { bits := 0xd, missing := 2, high := 0x9f })
  else if b < 0xf0 then some (.inr { bits := b % 0x10, missing := 2 })
  else if b = 0xf0 then some (.inr { bits := 0, missing := 3, low := 0x90 })
  else if b < 0xf4 then some (.inr { bits := b % 8, missing := 3 })
  else if b = 0xf4 then some (.inr { bits := 4, missing := 3, high := 0x8f })
  else none

def read (begun : Option Begun) : List UInt8 → List Char
  | [] => if begun.isSome then [replacement] else []
  | b :: rest =>
    let anew (before : List Char) :=
      match begin? b.toNat with
      | some (.inl c) => before ++ c :: read none rest
      | some (.inr start) => before ++ read (some start) rest
      | none => before ++ replacement :: read none rest
    match begun with
    | none => anew []
    | some p =>
      if p.low ≤ b.toNat ∧ b.toNat ≤ p.high then
        let bits := p.bits * 0x40 + b.toNat % 0x40
        if p.missing = 1 then Char.ofNat bits :: read none rest
        else read (some { bits, missing := p.missing - 1 }) rest
      else anew [replacement]

def lossy (bytes : List UInt8) : List Char := read none bytes

theorem lossy_nil : lossy [] = [] := rfl

theorem lossy_truncated : lossy [0xe2, 0x82, 0x41] = [replacement, 'A'] := by decide +kernel

end CypherLink.Utf8
