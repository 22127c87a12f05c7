import CypherLink.Host.Label
import CypherLink.Text.Cut

/-!
Host names outside ASCII are labels between dots, of which there are four. On the wire each label is
written in ASCII and the dots are full stops.
-/

namespace CypherLink.Host

def isDot (c : Char) : Bool := ['.', '。', '．', '｡'].contains c

/-- The labels of a name without the empty one behind a dot at its end, and whether there is one. -/
def labels (name : List Char) : List (List Char) × Bool :=
  let pieces := cutAt isDot name
  if pieces.getLast? = some [] then (pieces.dropLast, true) else (pieces, false)

def joined (pieces : List (List Char)) (trailingDot : Bool) : List Char :=
  ['.'].intercalate (if trailingDot then pieces ++ [[]] else pieces)

def checkLength (name : List Char) : Except NameError Unit := do
  if Label.longest < name.length then throw .longName
  if name = [] then throw .emptyName

/-- The form of a name on the wire. -/
def encodeName (name : List Char) : Except NameError (List Char) := do
  checkLength name
  let (pieces, trailingDot) := labels name
  let out := joined (← pieces.mapM Label.encode) trailingDot
  if (if trailingDot then Label.longest else Label.longest - 1) < out.length then throw .longName
  return out

/-- The name that a name on the wire stands for. -/
def decodeName (name : List Char) : Except NameError (List Char) := do
  checkLength name
  let (pieces, trailingDot) := labels name
  return joined (← pieces.mapM Label.decode) trailingDot

end CypherLink.Host
