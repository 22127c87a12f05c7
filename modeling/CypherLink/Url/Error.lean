import CypherLink.Host.Label

/-!
Why a text is no address.
-/

namespace CypherLink

/-- The parts of an address that are looked at one by one when one of them is replaced. -/
inductive UrlPart where
  | scheme | authority | path | query | fragment | host
  deriving DecidableEq

def UrlPart.name : UrlPart → String
  | .scheme => "scheme"
  | .authority => "authority"
  | .path => "path"
  | .query => "query"
  | .fragment => "fragment"
  | .host => "host"

inductive UrlError where
  | tooLong
  | partTooLong (part : UrlPart)
  | unprintable (char : Char) (place : Nat)
  | partUnprintable (part : UrlPart) (char : Char) (place : Nat)
  | dotted (host : String)
  | grouped (host : String)
  | hostName (host : String)
  | port (text : String)
  | rootless
  | doubleSlash
  | leadingColon
  deriving DecidableEq

namespace UrlError

def unprintableIn (whole : String) (char : Char) (place : Nat) : String :=
  "Invalid non-printable ASCII character in " ++ whole ++ ", " ++
    Literal.shown (String.singleton char) ++ " at position " ++ toString place ++ "."

def message : UrlError → String
  | .tooLong => "URL too long"
  | .partTooLong part => "URL component '" ++ part.name ++ "' too long"
  | .unprintable char place => unprintableIn "URL" char place
  | .partUnprintable part char place =>
    unprintableIn ("URL " ++ part.name ++ " component") char place
  | .dotted host => "Invalid IPv4 address: " ++ Literal.shown host
  | .grouped host => "Invalid IPv6 address: " ++ Literal.shown host
  | .hostName host => "Invalid IDNA hostname: " ++ Literal.shown host
  | .port text => "Invalid port: " ++ Literal.shown text
  | .rootless => "For absolute URLs, path must be empty or begin with '/'"
  | .doubleSlash => "Relative URLs cannot have a path starting with '//'"
  | .leadingColon => "Relative URLs cannot have a path starting with ':'"

end UrlError

end CypherLink
