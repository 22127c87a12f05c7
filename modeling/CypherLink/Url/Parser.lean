import CypherLink.Host.Lower
import CypherLink.Host.Numeric
import CypherLink.Text.Digit
import CypherLink.Url.Error
import CypherLink.Url.Parts

/-!
Addresses from their text. Scheme and host are written in lower case, the port that the scheme
implies is left out, dots among the path's segments are resolved, and characters that may not stand
in their part are written as bytes. An address without scheme or host only says where to go from the
root of a server.
-/

namespace CypherLink.Url

/-- The greatest length of an address, and of each of its parts. -/
def longest : Nat := 65536

def unprintable? (cs : List Char) : Option (Char × Nat) :=
  cs.zipIdx.find? fun e => e.1.toNat < 0x20 || e.1.toNat = 0x7f

/-- A host in brackets is numeric, and so is one that looks as if it were. -/
def hostOf (host : List Char) : Except UrlError (List Char) :=
  let shown := String.ofList host
  if host = [] then .ok []
  else if Host.Numeric.looksDotted host then
    if Host.Numeric.isDotted host then .ok host else .error (.dotted shown)
  else if host.head? = some '[' && host.getLast? = some ']' then
    let inner := (host.drop 1).dropLast
    if Host.Numeric.isZoned inner then .ok inner else .error (.grouped shown)
  else if host.all Ascii.isAscii then
    .ok (Percent.encode Percent.hostSafe (host.map Char.toLower))
  else (Host.encodeName (Host.lower host)).mapError fun _ => .hostName shown

/-- The port that a scheme implies; the scheme's name counts as it is written. -/
def defaultPort (scheme : String) : Option Int :=
  [("ftp", 21), ("http", 80), ("https", 443), ("ws", 80), ("wss", 443)].lookup scheme

def portOf (scheme : String) (cs : List Char) : Except UrlError (Option Int) :=
  if cs = [] then .ok none
  else
    match Digit.integer? cs with
    | some n => .ok (if defaultPort scheme = some n then none else some n)
    | none => .error (.port (String.ofList cs))

/-- Segments of one dot are dropped; two dots take the segment before them along. -/
def resolveDots (segments : List (List Char)) : List (List Char) :=
  let stack := segments.foldl (fun out s =>
    if s = ['.'] then out
    else if s = ['.', '.'] then (if out = [[]] then out else out.tail)
    else s :: out) []
  stack.reverse

def segments (path : List Char) : List (List Char) := cutAt (· = '/') path

def normalPath (path : List Char) : List Char := ['/'].intercalate (resolveDots (segments path))

def checkPath (hasScheme hasAuthority : Bool) (path : List Char) : Except UrlError Unit :=
  if hasAuthority then
    if path ≠ [] ∧ path.head? ≠ some '/' then .error .rootless else .ok ()
  else if hasScheme then .ok ()
  else if path.take 2 = ['/', '/'] then .error .doubleSlash
  else if path.head? = some ':' then .error .leadingColon
  else .ok ()

def ofParts (p : UrlParts) : Except UrlError Url := do
  let host ← hostOf p.host
  let port ← portOf (String.ofList p.scheme) p.port
  let hasScheme := !p.scheme.isEmpty
  let hasAuthority := !p.userinfo.isEmpty || !host.isEmpty || port.isSome
  checkPath hasScheme hasAuthority p.path
  let path := if hasScheme || hasAuthority then normalPath p.path else p.path
  return {
    scheme := String.ofList (p.scheme.map Char.toLower)
    userinfo := String.ofList (Percent.encode Percent.userinfoSafe p.userinfo)
    host := String.ofList host
    port
    path := String.ofList (Percent.encode Percent.pathSafe path)
    query := p.query.map fun q => String.ofList (Percent.encode Percent.querySafe q)
    fragment := p.fragment.map fun f => String.ofList (Percent.encode Percent.fragmentSafe f) }

def parse (text : String) : Except UrlError Url :=
  if longest < text.length then .error .tooLong
  else
    match unprintable? text.toList with
    | some (c, i) => .error (.unprintable c i)
    | none => ofParts (.ofText text.toList)

def checkPart (part : UrlPart) (cs : List Char) : Except UrlError Unit :=
  if longest < cs.length then .error (.partTooLong part)
  else
    match unprintable? cs with
    | some (c, i) => .error (.partUnprintable part c i)
    | none => .ok ()

/-- What an address without scheme or host keeps: its path from the root, and its query. -/
def fromRoot (u : Url) : Except UrlError Url := do
  let path := '/' :: u.path.toList.dropWhile (· = '/')
  let query := u.query.map String.toList
  checkPart .path path
  query.forM (checkPart .query)
  ofParts { path, query }

/-- The address to which a request for a text goes. -/
def target (text : String) : Except UrlError Url := do
  let u ← parse text
  if u.isAbsolute then return u else fromRoot u

theorem parse_tooLong (text : String) (h : longest < text.length) : parse text = .error .tooLong := by
  simp [parse, h]

theorem resolveDots_self : resolveDots [[], ['a'], ['.', '.'], ['b']] = [[], ['b']] := by decide

end CypherLink.Url
