import RdfXml.Text.Ascii
import RdfXml.Text.CharRanges

/-
  Characters of internationalized resource identifiers.

  Key definitions include:
    * `Iri.isPlain`
    * `Iri.isPathChar`
    * `Iri.isQueryChar`
    * `Iri.isFragmentChar`
    * `Iri.Fault`
    * `Iri.checkChars`
-/

------------------------------------------------------------
-- Character Classes
------------------------------------------------------------

namespace RdfXml

namespace Iri

/- Characters beyond ASCII that may occur anywhere. -/
def wideRanges : CharRanges where
  ranges :=
    [(0xA0, 0xD7FF), (0xF900, 0xFDCF), (0xFDF0, 0xFFEF),
     (0x10000, 0x1FFFD), (0x20000, 0x2FFFD),
     (0x30000, 0x3FFFD), (0x40000, 0x4FFFD),
     (0x50000, 0x5FFFD), (0x60000, 0x6FFFD),
     (0x70000, 0x7FFFD), (0x80000, 0x8FFFD),
     (0x90000, 0x9FFFD), (0xA0000, 0xAFFFD),
     (0xB0000, 0xBFFFD), (0xC0000, 0xCFFFD),
     (0xD0000, 0xDFFFD), (0xE1000, 0xEFFFD)]

/- Private use characters, which only a query may hold. -/
def privateRanges : CharRanges where
  ranges :=
    [(0xE000, 0xF8FF), (0xF0000, 0xFFFFD),
     (0x100000, 0x10FFFD)]

/- Unreserved characters and subcomponent delimiters. -/
def isPlain (c : Char) : Bool :=
  isAsciiAlphanumeric c ||
    "!$&'()*+,-.;=_~".toList.contains c ||
      wideRanges.contains c

/- Characters of user information. -/
def isUserChar (c : Char) : Bool :=
  isPlain c || c == ':'

/- Characters of a path, slashes included. -/
def isPathChar (c : Char) : Bool :=
  isPlain c || c == ':' || c == '@' || c == '/'

/- Characters of a fragment. -/
def isFragmentChar (c : Char) : Bool :=
  isPathChar c || c == '?'

/- Characters of a query. -/
def isQueryChar (c : Char) : Bool :=
  isFragmentChar c || privateRanges.contains c

/- Characters of a scheme after its first letter. -/
def isSchemeChar (c : Char) : Bool :=
  isAsciiAlphanumeric c || c == '+' || c == '-' || c == '.'

------------------------------------------------------------
-- Faults
------------------------------------------------------------

/- Why a text is not an IRI or an IRI reference. -/
inductive Fault where
| noScheme
| hostCharacter (c : Char)
| hostAddress
| portCharacter (c : Char)
| codePoint (c : Char)
| percentEncoding (chars : List Char)
| twoSlashes
deriving DecidableEq, Repr

namespace Fault

/- The text of a fault. -/
def message : Fault → String
| .noScheme => "No scheme found in an absolute IRI"
| .hostCharacter c =>
    "Invalid character '" ++ String.singleton c ++
      "' in host"
| .hostAddress =>
    "Invalid host IP (invalid IPv6 address syntax)"
| .portCharacter c =>
    "Invalid character '" ++ String.singleton c ++ "'"
| .codePoint c =>
    "Invalid IRI code point '" ++ String.singleton c ++ "'"
| .percentEncoding chars =>
    "Invalid IRI percent encoding '" ++
      String.ofList chars ++ "'"
| .twoSlashes =>
    "An IRI path is not allowed to start with // if there " ++
      "is no authority"

end Fault

/-
  All characters are of a class or belong to percent-encoded
  bytes.  `behind` is what follows the characters, of which a
  fault in their last byte shows the beginning.
-/
def checkChars
    (allowed : Char → Bool)
    (behind : List Char) :
    List Char → Except Fault Unit
| [] => .ok ()
| '%' :: high :: low :: rest =>
    if isHexDigit high && isHexDigit low then
      checkChars allowed behind rest
    else
      .error (.percentEncoding ['%', high, low])
| c :: rest =>
    if c = '%' then
      .error
        (.percentEncoding ((c :: rest ++ behind).take 3))
    else if allowed c then
      checkChars allowed behind rest
    else
      .error (.codePoint c)

end Iri

end RdfXml
