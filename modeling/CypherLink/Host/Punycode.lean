import CypherLink.Text.Ascii

/-!
Labels in ASCII letters, digits and hyphens. The ASCII characters of a label come first; behind a
hyphen its other characters follow in ascending order, as the distances that lead from one to the
next. A distance is written in digits to the base 36, the lowest first; the digit that falls below a
threshold is its last.
-/

namespace CypherLink.Host.Punycode

def digits : List Char := "abcdefghijklmnopqrstuvwxyz0123456789".toList

def digitChar (d : Nat) : Char := digits.getD d 'a'

def value? (c : Char) : Option Nat := digits.idxOf? c

theorem value?_digitChar : ∀ d < 36, value? (digitChar d) = some d := by decide +kernel

/-- The lowest digit that is not the last, at a position that counts in steps of 36. -/
def threshold (position bias : Nat) : Nat := max 1 (min 26 (position - bias))

theorem threshold_pos (position bias : Nat) : 0 < threshold position bias := by
  simp only [threshold]
  omega

theorem threshold_le (position bias : Nat) : threshold position bias ≤ 26 := by
  simp only [threshold]
  omega

/-- Divides until few digits are left, and counts the divisions in steps of 36. -/
def shrink (distance count : Nat) : Nat × Nat :=
  if h : 455 < distance then shrink (distance / 35) (count + 36) else (distance, count)
termination_by distance

/-- The bias that makes a distance like the last one short. -/
def adapt (distance written : Nat) (isFirst : Bool) : Nat :=
  let distance := if isFirst then distance / 700 else distance / 2
  let (distance, count) := shrink (distance + distance / written) 0
  count + 36 * distance / (distance + 38)

def writeDistance (position bias distance : Nat) : List Char :=
  let t := threshold position bias
  if h : distance < t then [digitChar distance]
  else
    digitChar (t + (distance - t) % (36 - t)) ::
      writeDistance (position + 36) bias ((distance - t) / (36 - t))
termination_by distance
decreasing_by
  have := threshold_pos position bias
  exact Nat.lt_of_le_of_lt (Nat.div_le_self _ _) (by omega)

/-- How far the writing of a label has come. -/
structure Written where
  out : List Char
  distance : Nat
  bias : Nat
  count : Nat
  /-- The number of ASCII characters. -/
  plain : Nat

/-- Passes one character of the label on the way to the next place of the code point `n`. -/
def passBy (n : Nat) (w : Written) (c : Char) : Written :=
  if c.toNat < n then { w with distance := w.distance + 1 }
  else if c.toNat = n then
    { w with
      out := w.out ++ writeDistance 36 w.bias w.distance
      distance := 0
      bias := adapt w.distance (w.count + 1) (w.count = w.plain)
      count := w.count + 1 }
  else w

/-- Writes the places of some code points, given in ascending order; `low` has not been passed. -/
def writeAll (label : List Char) (low : Nat) (w : Written) : List Nat → List Char
  | [] => w.out
  | n :: rest =>
    let w := { w with distance := w.distance + (n - low) * (w.count + 1) }
    let w := label.foldl (passBy n) w
    writeAll label (n + 1) { w with distance := w.distance + 1 } rest

def encode (label : List Char) : List Char :=
  let plain := label.filter Ascii.isAscii
  let others := ((label.filter fun c => !Ascii.isAscii c).map Char.toNat).eraseDups.mergeSort (· ≤ ·)
  writeAll label 128
    { out := if plain = [] then [] else plain ++ ['-']
      distance := 0
      bias := 72
      count := plain.length
      plain := plain.length } others

/-- How far the reading of a label has come: what it holds so far, the code point and the place
reached, and what is read of the next distance. -/
structure Read where
  out : List Char
  code : Nat := 128
  place : Nat := 0
  bias : Nat := 72
  isFirst : Bool := true
  distance : Nat := 0
  weight : Nat := 1
  position : Nat := 36

/-- Goes the distance and puts a character there, if the code point is one. -/
def arrive (r : Read) (distance : Nat) : Option Read :=
  let size := r.out.length + 1
  let goal := r.place + distance
  let code := r.code + goal / size
  let place := goal % size
  if code.isValidChar then
    some {
      out := r.out.take place ++ Char.ofNat code :: r.out.drop place
      code
      place := place + 1
      bias := adapt distance size r.isFirst
      isFirst := false }
  else none

def readDigit (r : Read) (c : Char) : Option Read :=
  (value? c).bind fun d =>
    let t := threshold r.position r.bias
    let distance := r.distance + d * r.weight
    if d < t then arrive r distance
    else some { r with distance, weight := r.weight * (36 - t), position := r.position + 36 }

/-- The part before the last hyphen, which may be missing, and the part behind it. -/
def splitPlain (label : List Char) : List Char × List Char :=
  match label.reverse.span (· ≠ '-') with
  | (others, _ :: plain) => (plain.reverse, others.reverse)
  | (_, []) => ([], label)

/-- Reads a label; one that breaks off within a distance is refused. -/
def decode (label : List Char) : Option (List Char) :=
  let (plain, others) := splitPlain label
  match others.foldlM readDigit { out := plain } with
  | some r => if r.position = 36 then some r.out else none
  | none => none

theorem decode_nil : decode [] = some [] := by decide

end CypherLink.Host.Punycode
