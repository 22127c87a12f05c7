import CypherLink.Url.Percent

/-!
Addresses as they go on the wire, and their text.
-/

namespace CypherLink

/-- The host of a numeric address of 128 bits stands here without its brackets. -/
structure Url where
  scheme : String
  userinfo : String
  host : String
  port : Option Int
  path : String
  query : Option String
  fragment : Option String
  deriving DecidableEq

namespace Url

def isAbsolute (u : Url) : Bool := u.scheme ≠ "" && u.host ≠ ""

/-- A text behind a mark, if there is one. -/
def behind (mark : String) : Option String → String
  | some s => mark ++ s
  | none => ""

/-- Host and port; brackets keep the colons of a host apart from the port's. -/
def site (u : Url) : String :=
  (if u.host.toList.contains ':' then "[" ++ u.host ++ "]" else u.host) ++
    behind ":" (u.port.map toString)

def authority (u : Url) : String :=
  (if u.userinfo = "" then "" else u.userinfo ++ "@") ++ u.site

def text (u : Url) : String :=
  (if u.scheme = "" then "" else u.scheme ++ ":") ++
    (if u.authority = "" then "" else "//" ++ u.authority) ++
    u.path ++ behind "?" u.query ++ behind "#" u.fragment

/-- The name and the password that the address itself holds, joined by a colon. -/
def credentials? (u : Url) : Option (List UInt8) :=
  let (user, rest) := u.userinfo.toList.span (· ≠ ':')
  let user := Percent.decode user
  let password := Percent.decode (rest.drop 1)
  if user.isEmpty && password.isEmpty then none
  else some (String.ofList (user ++ ':' :: password)).toUTF8.toList

theorem text_path (path : String) : text ⟨"", "", "", none, path, none, none⟩ = path := by
  have h : ("" : String).toList.contains ':' = false := by decide
  simp [text, authority, site, behind]

end Url

end CypherLink
