import CypherLink.Text.Ascii
import CypherLink.Url.Parser

/-!
Where a redirect leads. A location may leave out what it shares with the address of the request: its
host, all that stands before its path, or its fragment.
-/

namespace CypherLink

/-- Why a redirect leads nowhere: its location is no address, or its goal is none. -/
inductive RedirectError where
  | location (e : UrlError)
  | goal (e : UrlError)
  | hostName (e : Host.NameError)
  | site (fault : Ascii.Fault)
  deriving DecidableEq

namespace Url

/-- Checks the parts of an address before one of them is replaced. -/
def checkParts (u : Url) (fragment : Option (List Char)) : Except UrlError Unit := do
  checkPart .scheme u.scheme.toList
  checkPart .authority u.authority.toList
  checkPart .path u.path.toList
  (u.query.map String.toList).forM (checkPart .query)
  fragment.forM (checkPart .fragment)

def parts (u : Url) (fragment : Option (List Char)) : UrlParts :=
  UrlParts.withAuthority
    { scheme := u.scheme.toList
      path := u.path.toList
      query := u.query.map String.toList
      fragment } u.authority.toList

def withHost (u : Url) (host : List Char) : Except UrlError Url := do
  let fragment := u.fragment.map String.toList
  let host := if host.contains ':' then '[' :: (host ++ [']']) else host
  u.checkParts fragment
  checkPart .host host
  ofParts { u.parts fragment with host }

def withFragment (u : Url) (fragment : List Char) : Except UrlError Url := do
  u.checkParts (some fragment)
  ofParts (u.parts (some fragment))

/-- The host's name as it is read. -/
def hostName (u : Url) : Except Host.NameError (List Char) :=
  let host := u.host.toList
  if Host.Label.mark.isPrefixOf host then Host.decodeName host else .ok host

def fragmentText (u : Url) : List Char := Percent.decode (u.fragment.getD "").toList

/-- The schemes whose addresses can be taken relative to one another. -/
def hierarchical : List String :=
  ["ftp", "http", "gopher", "nntp", "imap", "wais", "file", "https", "shttp", "mms", "prospero",
    "rtsp", "rtsps", "rtspu", "sftp", "svn", "svn+ssh", "ws", "wss"]

/-- The directory of a path, in segments. -/
def directory (path : List Char) : List (List Char) :=
  let pieces := segments path
  if pieces.getLast? = some [] then pieces else pieces.dropLast

/-- Drops empty segments, but keeps the first and the last. -/
def withoutGaps : List (List Char) → List (List Char)
  | [] => []
  | first :: rest => first :: (rest.dropLast.filter (· ≠ []) ++ rest.getLast?.toList)

/-- Follows a path from a base; dots may lead up to the root and no further. -/
def pathFrom (base path : List Char) : List Char :=
  let pieces :=
    if path.head? = some '/' then segments path
    else withoutGaps (directory base ++ segments path)
  let stack := pieces.foldl (fun out s =>
    if s = ['.'] then out else if s = ['.', '.'] then out.tail else s :: out) []
  let stack := if [['.'], ['.', '.']].contains (pieces.getLast?.getD []) then [] :: stack else stack
  let joined := ['/'].intercalate stack.reverse
  if joined.head? = some '/' then joined else '/' :: joined

/-- The text of a relative address when it is taken from a base. -/
def textFrom (base relative : Url) : String :=
  let p := UrlParts.ofText relative.text.toList
  let text (s : Option (List Char)) := (s.filter (· ≠ [])).map String.ofList
  if relative.text = "" then base.text
  else if ¬hierarchical.contains base.scheme ∨ (p.scheme ≠ [] ∧ String.ofList p.scheme ≠ base.scheme) then
    relative.text
  else if relative.authority ≠ "" then { relative with scheme := base.scheme }.text
  else if p.path = [] then
    { base with query := (text p.query).or base.query, fragment := text p.fragment }.text
  else
    { base with
      path := String.ofList (pathFrom base.path.toList p.path)
      query := text p.query
      fragment := text p.fragment }.text

/-- Reads the host names of two addresses, as a comparison of the two does. -/
def compareHosts (u v : Url) : Except Host.NameError Unit := do
  let (first, second) := if u.scheme = v.scheme then (u, v) else (v, u)
  let _ ← first.hostName
  let _ ← second.hostName

/-- Takes the host of a request for an address that names none. -/
def withHostOf (u request : Url) : Except RedirectError Url := do
  let host ← u.hostName.mapError .hostName
  if host ≠ [] then return u
  let host ← request.hostName.mapError .hostName
  (u.withHost host).mapError .goal

/-- The address to which a redirect of a request leads. -/
def follow (request : Url) (location : String) : Except RedirectError Url := do
  let found ← (parse location).mapError .location
  let found ← if found.scheme = "" then pure found else found.withHostOf request
  let found ←
    if found.isAbsolute then pure found else (parse (textFrom request found)).mapError .goal
  let found ←
    if request.fragmentText ≠ [] ∧ found.fragmentText = [] then
      (found.withFragment request.fragmentText).mapError .goal
    else pure found
  (compareHosts found request).mapError .hostName
  match Ascii.fault? found.site.toList with
  | some f => throw (.site f)
  | none => return found

theorem follow_badLocation (request : Url) (location : String) (e : UrlError)
    (h : parse location = .error e) : follow request location = .error (.location e) := by
  unfold follow
  rw [h]
  rfl

end Url

end CypherLink
