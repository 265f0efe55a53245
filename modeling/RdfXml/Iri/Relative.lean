import RdfXml.Iri.Resolution

/-
  References that are short for an IRI with a known base.

  Key definitions include:
    * `Iri.Parts.relativeTo?`
    * `Iri.relativeTo`
-/

------------------------------------------------------------
-- Relative References
------------------------------------------------------------

namespace RdfXml

namespace Iri

/- The longest common start of two lists. -/
def commonStart : List Char → List Char → List Char
| a :: as, b :: bs =>
    if a = b then a :: commonStart as bs else []
| _, _ => []

/- A path up to its last slash, which is included. -/
def upToLastSlash (path : List Char) : List Char :=
  (path.reverse.dropWhile (· != '/')).reverse

namespace Parts

/-
  The path, query, and fragment.  A path without a slash in
  front would be read from the directory of the base.
-/
def fromPath (base iri : Parts) : List Char :=
  if iri.authority?.isSome ||
      iri.path.head? = some '/' || base.path.isEmpty then
    iri.path ++ iri.suffixChars
  else
    iri.toChars

/- The shortest reference to an IRI with another path. -/
def relativePath (base iri : Parts) : List Char :=
  let shared :=
    upToLastSlash (commonStart iri.path base.path)
  let rest := iri.path.drop shared.length
  if rest.head? = some '/' || rest.contains ':' ||
      (base.path.drop shared.length).contains '/' then
    base.fromPath iri
  else if rest.isEmpty then
    '.' :: iri.suffixChars
  else
    rest ++ iri.suffixChars

/- The first segment of a path would be read as a scheme. -/
def looksLikeScheme (iri : Parts) : Bool :=
  (iri.path.takeWhile (· != '/')).contains ':'

/-
  The scheme has to be written: it differs, or what follows it
  would be read in another way.
-/
def needsScheme (base iri : Parts) : Bool :=
  iri.scheme? != base.scheme? ||
    (iri.authority?.isNone &&
      (base.authority?.isSome || iri.looksLikeScheme ||
        (iri.path.isEmpty &&
          (!base.path.isEmpty ||
            (iri.query?.isNone && base.query?.isSome)))))

/-
  All after the scheme has to be written: the authority
  differs, or the path alone would be read in another way.
-/
def needsAuthority (base iri : Parts) : Bool :=
  iri.authority? != base.authority? ||
    (iri.path.isEmpty &&
      (!base.path.isEmpty || base.query?.isSome)) ||
    iri.path.take 2 == ['/', '/']

/-
  A short reference to an IRI, or nothing when its path has
  dot segments.
-/
def relativeTo?
    (base iri : Parts) : Option (List Char) :=
  if (splitOn '/' iri.path).any Path.isDotSegment then
    none
  else if base.needsScheme iri then
    some iri.toChars
  else if base.needsAuthority iri then
    some iri.relativeChars
  else if iri.path != base.path ||
      (iri.query?.isNone && base.query?.isSome) then
    some (base.relativePath iri)
  else if iri.query? != base.query? then
    some iri.suffixChars
  else
    some (withDelimiter ['#'] iri.fragment?)

end Parts

/- How to write an IRI where a base is in effect. -/
def relativeTo
    (base : Parts)
    (iri : String) : String :=
  match base.relativeTo? (Parts.split iri.toList) with
  | some reference => String.ofList reference
  | none => iri

end Iri

end RdfXml
