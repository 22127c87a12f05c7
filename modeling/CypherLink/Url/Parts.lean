import CypherLink.Url.Basic

/-!
Cutting the text of an address into its parts at the delimiters. Every text can be cut; whether the
parts are good is not asked here. Main statement: `splitLast_append`.
-/

namespace CypherLink

/-- The parts of an address as they are written. -/
structure UrlParts where
  scheme : List Char := []
  userinfo : List Char := []
  host : List Char := []
  port : List Char := []
  path : List Char := []
  query : Option (List Char) := none
  fragment : Option (List Char) := none

namespace UrlParts

/-- What stands before the last of some characters that are alike, and what after it. -/
def splitLast (mark : Char) (cs : List Char) : Option (List Char × List Char) :=
  match cs.reverse.dropWhile (· ≠ mark) with
  | _ :: before => some (before.reverse, (cs.reverse.takeWhile (· ≠ mark)).reverse)
  | [] => none

/-- The text up to the first of some characters, and the rest that starts there. -/
def upTo (stops : List Char) (cs : List Char) : List Char × List Char :=
  (cs.takeWhile fun c => !stops.contains c, cs.dropWhile fun c => !stops.contains c)

def isSchemeChar (c : Char) : Bool := c.isAlphanum || c = '+' || c = '.' || c = '-'

/-- The scheme before a colon, if there is one. -/
def splitScheme (cs : List Char) : List Char × List Char :=
  match cs.span isSchemeChar with
  | ([], ':' :: rest) => ([], rest)
  | (c :: name, ':' :: rest) => if c.isAlpha then (c :: name, rest) else ([], cs)
  | _ => ([], cs)

/-- A host in brackets reaches up to the last bracket, another one up to the first colon. -/
def splitHost (cs : List Char) : List Char × List Char :=
  match cs, splitLast ']' cs with
  | '[' :: _, some (host, rest) => (host ++ [']'], rest)
  | _, _ => upTo [':', '@'] cs

/-- The part after a mark, if the mark comes next. -/
def marked (mark : Char) (cs : List Char) : Option (List Char) :=
  match cs with
  | c :: rest => if c = mark then some rest else none
  | [] => none

/-- The colon before a port may be missing behind a host in brackets. -/
def withAuthority (p : UrlParts) (cs : List Char) : UrlParts :=
  let (userinfo, site) := (splitLast '@' cs).getD ([], cs)
  let (host, rest) := splitHost site
  { p with userinfo, host, port := (marked ':' rest).getD rest }

def splitAuthority : List Char → List Char × List Char
  | '/' :: '/' :: rest => upTo ['/', '?', '#'] rest
  | cs => ([], cs)

def splitQuery (cs : List Char) : Option (List Char) × List Char :=
  match marked '?' cs with
  | some rest => let (query, rest) := upTo ['#'] rest; (some query, rest)
  | none => (none, cs)

def ofText (cs : List Char) : UrlParts :=
  let (scheme, rest) := splitScheme cs
  let (authority, rest) := splitAuthority rest
  let (path, rest) := upTo ['?', '#'] rest
  let (query, rest) := splitQuery rest
  withAuthority { scheme, path, query, fragment := marked '#' rest } authority

theorem upTo_append (stops cs : List Char) : (upTo stops cs).1 ++ (upTo stops cs).2 = cs := by
  simp [upTo]

theorem splitLast_append (mark : Char) (before after : List Char) (h : mark ∉ after) :
    splitLast mark (before ++ mark :: after) = some (before, after) := by
  have hp : ∀ c ∈ after.reverse, (!decide (c = mark)) = true := fun c hc => by
    have : c ≠ mark := fun he => h (he ▸ List.mem_reverse.1 hc)
    simp [this]
  simp [splitLast, List.takeWhile_append_of_pos hp, List.dropWhile_append_of_pos hp]

end UrlParts

end CypherLink
