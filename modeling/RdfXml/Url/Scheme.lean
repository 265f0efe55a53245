import RdfXml.Iri.Parts

/-
  Schemes of URLs.

  Key definitions include:
    * `Url.isSpecial`
    * `Url.defaultPort?`
    * `Url.scheme?`
-/

------------------------------------------------------------
-- Schemes
------------------------------------------------------------

namespace RdfXml

namespace Url

/- Schemes whose URLs have a domain. -/
def isSpecial (scheme : String) : Bool :=
  ["http", "https", "ws", "wss", "ftp", "file"].contains
    scheme

/- The port that a scheme implies. -/
def defaultPort? (scheme : String) : Option Nat :=
  if scheme = "http" || scheme = "ws" then some 80
  else if scheme = "https" || scheme = "wss" then some 443
  else if scheme = "ftp" then some 21
  else none

/- The scheme of a URL in small letters, and the rest. -/
def scheme?
    (input : List Char) : Option (String × List Char) :=
  match Iri.splitScheme input with
  | (some scheme, rest) =>
      some (String.ofList (scheme.map lowerChar), rest)
  | (none, _) => none

/- A slash, or a backslash where it means the same. -/
def isSlash
    (isSpecial : Bool)
    (c : Char) : Bool :=
  c == '/' || (isSpecial && c == '\\')

/- Characters of an authority: all up to a delimiter. -/
def inAuthority
    (isSpecial : Bool)
    (c : Char) : Bool :=
  !isSlash isSpecial c && c != '?' && c != '#'

end Url

end RdfXml
