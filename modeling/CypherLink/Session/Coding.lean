import CypherLink.Deflate.Wrapped
import CypherLink.Text.Cut
import CypherLink.Text.Space

/-!
The codings that make a body shorter on the way. A header lists them in the order in which they were
applied; names of others, or of none, are passed over.
-/

namespace CypherLink

inductive Coding where
  | deflate | gzip
  deriving DecidableEq

namespace Coding

def ofName? (name : String) : Option Coding :=
  if name = "deflate" then some .deflate
  else if name = "gzip" then some .gzip
  else none

def ofHeader (names : String) : List Coding :=
  (cutAt (· = ',') (names.toList.map Char.toLower)).filterMap fun name =>
    ofName? (String.ofList (Space.trim Space.isSpace name))

/-- What a body was before a coding. Under the first, compressed data may also stand alone. -/
def undo : Coding → List UInt8 → Except Deflate.Fault (List UInt8)
  | .deflate, body =>
    match Deflate.Reader.zlib.expand body with
    | .ok out => .ok out
    | .error _ => Deflate.Reader.inflate.expand body
  | .gzip, body => Deflate.Reader.gzip.expand body

end Coding

end CypherLink
