import CypherLink.Host.Alphabet
import CypherLink.Host.Joining
import CypherLink.Host.Punycode
import CypherLink.Host.Script
import CypherLink.Text.Literal

/-!
Labels of international host names. A label is written in composed form and with characters that
labels may hold, some of them only next to certain others. On the wire, a label outside ASCII is
written in ASCII behind a mark of its own.
-/

namespace CypherLink.Host

/-- Why a host name has no form in ASCII. Places count from one. -/
inductive NameError where
  | longName
  | emptyName
  | longLabel
  | emptyLabel
  | notComposed
  | middleHyphens
  | outerHyphen
  | leadingMark
  | character (c : Char) (place : Nat) (label : List Char)
  | context (c : Char) (place : Nat) (label : List Char)
  | joiner (c : Char) (place : Nat) (label : List Char)
  | bidi (fault : BidiFault) (label : List Char)
  | emptyCode
  | codeHyphen
  | badCode
  deriving DecidableEq

namespace NameError

def codePoint (c : Char) : String :=
  "U+" ++ String.ofList ((Hex.padded 4 c.toNat).map Char.toUpper)

def bidiMessage (label : List Char) : BidiFault → String
  | .first =>
    "First codepoint in label " ++ Literal.shown (String.ofList label) ++
      " must be directionality L, R or AL"
  | .turned place rightToLeft =>
    "Invalid direction for codepoint at position " ++ toString place ++ " in a " ++
      (if rightToLeft then "right-to-left" else "left-to-right") ++ " label"
  | .mixedDigits => "Can not mix numeral types in a right-to-left label"
  | .ending => "Label ends with illegal codepoint directionality"

def message : NameError → String
  | .longName => "Domain too long"
  | .emptyName => "Empty domain"
  | .longLabel => "Label too long"
  | .emptyLabel => "Empty Label"
  | .notComposed => "Label must be in Normalization Form C"
  | .middleHyphens => "Label has disallowed hyphens in 3rd and 4th position"
  | .outerHyphen => "Label must not start or end with a hyphen"
  | .leadingMark => "Label begins with an illegal combining character"
  | .character c place label =>
    "Codepoint " ++ codePoint c ++ " at position " ++ toString place ++ " of " ++
      Literal.shown (String.ofList label) ++ " not allowed"
  | .context c place label =>
    "Codepoint " ++ codePoint c ++ " not allowed at position " ++ toString place ++ " in " ++
      Literal.shown (String.ofList label)
  | .joiner c place label =>
    "Unknown codepoint adjacent to joiner " ++ codePoint c ++ " at position " ++ toString place ++
      " in " ++ Literal.shown (String.ofList label)
  | .bidi fault label => bidiMessage label fault
  | .emptyCode => "Malformed A-label, no Punycode eligible content found"
  | .codeHyphen => "A-label must not end with a hyphen"
  | .badCode => "Invalid A-label"

end NameError

namespace Label

def arabicDigits : Ranges := [(0x660, 0x669)]

def persianDigits : Ranges := [(0x6f0, 0x6f9)]

/-- Whether a character that needs certain others stands next to them; `none` if it is no such. -/
def inContext? (label before after : List Char) (c : Char) : Option Bool :=
  if c = '·' then some (before.head? = some 'l' && after.head? = some 'l')
  else if c = '\u0375' then some (after.head?.any (Ranges.has greek))
  else if c = '\u05f3' ∨ c = '\u05f4' then some (before.head?.any (Ranges.has hebrew))
  else if c = '\u30fb' then some (label.any (Ranges.has japanese))
  else if Ranges.has arabicDigits c then some (!label.any (Ranges.has persianDigits))
  else if Ranges.has persianDigits c then some (!label.any (Ranges.has arabicDigits))
  else none

/-- What is wrong with a character; those before it are held in reverse. -/
def charFault? (label before after : List Char) (c : Char) : Option NameError :=
  let place := before.length + 1
  if isLabelChar c then none
  else if c = '\u200c' then
    if afterVirama before || joinedAround before after then none else some (.joiner c place label)
  else if c = '\u200d' then if afterVirama before then none else some (.joiner c place label)
  else
    match inContext? label before after c with
    | some true => none
    | some false => some (.context c place label)
    | none => some (.character c place label)

def firstFault? (label before : List Char) : List Char → Option NameError
  | [] => none
  | c :: after => (charFault? label before after c).or (firstFault? label (c :: before) after)

/-- The longest text that is looked at. -/
def longest : Nat := 254

def check (label : List Char) : Except NameError Unit := do
  if label = [] then throw .emptyLabel
  if longest < label.length then throw .longLabel
  if !isComposed label then throw .notComposed
  if (label.drop 2).take 2 = ['-', '-'] then throw .middleHyphens
  if label.head? = some '-' ∨ label.getLast? = some '-' then throw .outerHyphen
  if label.head?.any isMark then throw .leadingMark
  match firstFault? label [] label with
  | some e => throw e
  | none => pure ()
  match Bidi.fault? label with
  | some f => throw (.bidi f label)
  | none => pure ()

/-- What stands before the ASCII form of a label. -/
def mark : List Char := "xn--".toList

/-- The label that a label in ASCII stands for. -/
def decode (label : List Char) : Except NameError (List Char) := do
  let label := label.map Char.toLower
  if mark.isPrefixOf label then
    let code := label.drop mark.length
    if code = [] then throw .emptyCode
    if code.getLast? = some '-' then throw .codeHyphen
    match Punycode.decode code with
    | none => throw .badCode
    | some whole =>
      check whole
      return whole
  else
    check label
    return label

/-- A label on the wire has at most 63 characters. -/
def fitted (label : List Char) : Except NameError (List Char) :=
  if 63 < label.length then .error .longLabel else .ok label

def encode (label : List Char) : Except NameError (List Char) :=
  if label.all Ascii.isAscii then (decode label).bind fun _ => fitted label
  else (check label).bind fun _ => fitted (mark ++ Punycode.encode label)

theorem check_nil : check [] = .error .emptyLabel := by rfl

theorem length_fitted {label out : List Char} (h : fitted label = .ok out) : out.length ≤ 63 := by
  simp only [fitted] at h
  split at h
  · simp at h
  · simp only [Except.ok.injEq] at h
    subst h
    omega

theorem length_encode {label out : List Char} (h : encode label = .ok out) : out.length ≤ 63 := by
  simp only [encode] at h
  split at h
  · cases hd : decode label <;> simp_all [Except.bind]
    exact length_fitted h
  · cases hc : check label <;> simp_all [Except.bind]
    exact length_fitted h

end Label

end CypherLink.Host
