import RdfXml.Iri.Host

/-
  The components of an IRI or of an IRI reference.

  `Iri.Parts.split` cuts any text at the delimiters of the
  generic syntax, `Iri.Parts.check` validates the components,
  and `Iri.parse` accepts the texts that are IRIs.

  Key definitions include:
    * `Iri.Parts`
    * `Iri.Parts.split`
    * `Iri.Parts.toChars`
    * `Iri.Parts.check`
    * `Iri.parse`
    * `Iri.isAbsolute`
-/

------------------------------------------------------------
-- Components
------------------------------------------------------------

namespace RdfXml

namespace Iri

/- The five components, without their delimiters. -/
structure Parts where
  scheme? : Option (List Char)
  authority? : Option (List Char)
  path : List Char
  query? : Option (List Char)
  fragment? : Option (List Char)
deriving DecidableEq, Repr

/- A letter, then letters, digits, plus, minus, and dots. -/
def isScheme : List Char → Bool
| [] => false
| c :: rest => isAsciiLetter c && rest.all isSchemeChar

/- The scheme before the first colon, and what follows it. -/
def splitScheme
    (input : List Char) :
    Option (List Char) × List Char :=
  let scheme := input.takeWhile (· != ':')
  match input.drop scheme.length with
  | [] => (none, input)
  | _ :: rest =>
      if isScheme scheme then (some scheme, rest)
      else (none, input)

/- Characters of an authority: all up to a delimiter. -/
def inAuthority (c : Char) : Bool :=
  c != '/' && c != '?' && c != '#'

/- Characters of a path: all up to a delimiter. -/
def inPath (c : Char) : Bool :=
  c != '?' && c != '#'

/- The authority after two slashes, and what follows it. -/
def splitAuthority :
    List Char → Option (List Char) × List Char
| '/' :: '/' :: rest =>
    (some (rest.takeWhile inAuthority),
      rest.dropWhile inAuthority)
| input => (none, input)

/- The query after a question mark, and what follows it. -/
def splitQuery :
    List Char → Option (List Char) × List Char
| '?' :: rest =>
    (some (rest.takeWhile (· != '#')),
      rest.dropWhile (· != '#'))
| input => (none, input)

/- The fragment after a number sign. -/
def splitFragment : List Char → Option (List Char)
| '#' :: rest => some rest
| _ => none

namespace Parts

/- Cut a text into its components. -/
def split (input : List Char) : Parts :=
  let scheme := splitScheme input
  let authority := splitAuthority scheme.2
  let rest := authority.2.dropWhile inPath
  let query := splitQuery rest
  { scheme? := scheme.1
    authority? := authority.1
    path := authority.2.takeWhile inPath
    query? := query.1
    fragment? := splitFragment query.2 }

/- A component with the delimiter in front of it. -/
def withDelimiter
    (delimiter : List Char) :
    Option (List Char) → List Char
| some part => delimiter ++ part
| none => []

/- The scheme with its colon. -/
def schemeChars (parts : Parts) : List Char :=
  match parts.scheme? with
  | some scheme => scheme ++ [':']
  | none => []

/- The query and the fragment with their delimiters. -/
def suffixChars (parts : Parts) : List Char :=
  withDelimiter ['?'] parts.query? ++
    withDelimiter ['#'] parts.fragment?

/- All but the scheme. -/
def relativeChars (parts : Parts) : List Char :=
  withDelimiter ['/', '/'] parts.authority? ++
    parts.path ++ parts.suffixChars

/- The text that the components make up. -/
def toChars (parts : Parts) : List Char :=
  parts.schemeChars ++ parts.relativeChars

------------------------------------------------------------
-- Validation
------------------------------------------------------------

/- Check a component if it is present. -/
def checkOptional
    (check : List Char → Except Fault Unit) :
    Option (List Char) → Except Fault Unit
| some part => check part
| none => .ok ()

/-
  The first segment of a path without a scheme in front must
  not hold a colon.
-/
def checkFirstSegment
    (behind path : List Char) : Except Fault Unit := do
  let segment := path.takeWhile (· != '/')
  let start := segment.takeWhile (· != ':')
  checkChars isPathChar (path.drop start.length ++ behind)
    start
  if segment.contains ':' then .error .noScheme else .ok ()

/- Every component holds only characters that it may. -/
def check (parts : Parts) : Except Fault Unit := do
  let fragment := withDelimiter ['#'] parts.fragment?
  let suffix := parts.suffixChars
  checkOptional (checkAuthority (parts.path ++ suffix))
    parts.authority?
  if parts.scheme?.isNone && parts.authority?.isNone then
    checkFirstSegment suffix parts.path
  checkChars isPathChar suffix parts.path
  checkOptional (checkChars isQueryChar fragment) parts.query?
  checkOptional (checkChars isFragmentChar []) parts.fragment?

end Parts

------------------------------------------------------------
-- IRIs
------------------------------------------------------------

/- The components of an IRI, which has a scheme. -/
def parse (text : String) : Except Fault Parts :=
  let parts := Parts.split text.toList
  match parts.check with
  | .error fault => .error fault
  | .ok () =>
      if parts.scheme?.isSome then .ok parts
      else .error .noScheme

/- A text is an IRI. -/
def isValid (text : String) : Bool :=
  match parse text with
  | .ok _ => true
  | .error _ => false

/- A reference with a scheme stands on its own. -/
def isAbsolute (reference : String) : Bool :=
  (splitScheme reference.toList).1.isSome

end Iri

end RdfXml
