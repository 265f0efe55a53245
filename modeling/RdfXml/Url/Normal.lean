import RdfXml.Url.Authority
import RdfXml.Url.Path

/-
  URLs in their normal form.

  `Url.normalize?` accepts the texts that are absolute URLs
  and gives each of them in one form: small letters in the
  scheme and the domain, no default port, no dot segments, and
  forbidden characters percent-encoded.

  Key definitions include:
    * `Url.withAuthority?`
    * `Url.file?`
    * `Url.rooted`
    * `Url.unrooted`
    * `Url.normalize?`
-/

------------------------------------------------------------
-- Queries And Fragments
------------------------------------------------------------

namespace RdfXml

namespace Url

/- The query and the fragment of what follows a path. -/
def suffixText
    (isSpecial : Bool)
    (suffix : List Char) : List Char :=
  let (query?, rest) := Iri.splitQuery suffix
  Iri.Parts.withDelimiter ['?']
      (query?.map (encodeWith (inQuerySet isSpecial))) ++
    Iri.Parts.withDelimiter ['#']
      ((Iri.splitFragment rest).map (encodeWith inFragmentSet))

------------------------------------------------------------
-- URLs With An Authority
------------------------------------------------------------

/- A URL with an authority, from its authority on. -/
def withAuthority?
    (scheme : String)
    (input : List Char) : Option (List Char) :=
  let special := isSpecial scheme
  let authority := input.takeWhile (inAuthority special)
  let rest := input.dropWhile (inAuthority special)
  (authorityText? scheme rest.isEmpty authority).map
    (fun (text, front) =>
      ['/', '/'] ++ text ++
        pathText special
          (front ++ rest.takeWhile Iri.inPath) ++
        suffixText special (rest.dropWhile Iri.inPath))

------------------------------------------------------------
-- URLs Of Files
------------------------------------------------------------

/- The host of a file, where the local one is empty. -/
def fileHost? (host : List Char) : Option (List Char) :=
  if host.isEmpty then
    some []
  else
    (normalHost? true host).map
      (fun text =>
        if text = "localhost".toList then [] else text)

/- A URL of a file, from its path below the root on. -/
def fileText
    (host input : List Char) : List Char :=
  let path := filePath (input.takeWhile Iri.inPath)
  ['/', '/'] ++
    (if path.hasDrive then [] else host) ++ path.text ++
      suffixText true (input.dropWhile Iri.inPath)

/- A path without the slash or the backslash in front. -/
def dropAnySlash : List Char → List Char
| c :: rest => if isSlash true c then rest else c :: rest
| [] => []

/-
  A URL of a file, after two slashes.  A drive is no host, and
  without a host the slash in front of the path counts as an
  empty segment.
-/
def fileAfterSlashes?
    (input : List Char) : Option (List Char) :=
  let host := input.takeWhile (inAuthority true)
  let rest := input.dropWhile (inAuthority true)
  if isDrive host then
    some (fileText [] input)
  else
    (fileHost? host).map
      (fun text =>
        if text.isEmpty then fileText [] rest
        else fileText text (dropAnySlash rest))

/- A URL of a file, after its scheme. -/
def file? (input : List Char) : Option (List Char) :=
  let path := dropAnySlash input
  let rest := dropAnySlash path
  if rest.length + 2 = input.length then
    fileAfterSlashes? rest
  else
    some (fileText [] path)

------------------------------------------------------------
-- URLs Without An Authority
------------------------------------------------------------

/-
  A URL without an authority whose path begins with a slash.
  A path that looks like an authority gets a dot in front.
-/
def rooted (input : List Char) : List Char :=
  let path := pathText false (input.takeWhile Iri.inPath)
  let guard :=
    if path.take 2 = ['/', '/'] then ['/', '.'] else []
  guard ++ path ++
    suffixText false (input.dropWhile Iri.inPath)

/- A URL whose path has no segments. -/
def unrooted (input : List Char) : List Char :=
  encodeWith inControlSet (input.takeWhile Iri.inPath) ++
    suffixText false (input.dropWhile Iri.inPath)

------------------------------------------------------------
-- Whole URLs
------------------------------------------------------------

/- What follows the scheme and its colon. -/
def afterScheme?
    (scheme : String)
    (input : List Char) : Option (List Char) :=
  if scheme = "file" then
    file? input
  else if isSpecial scheme then
    withAuthority? scheme (input.dropWhile (isSlash true))
  else
    match input with
    | '/' :: '/' :: rest => withAuthority? scheme rest
    | '/' :: rest => some (rooted ('/' :: rest))
    | input => some (unrooted input)

/- Characters dropped at both ends of a URL. -/
def isEdge (c : Char) : Bool :=
  c.toNat ≤ 0x20

/- Characters dropped anywhere in a URL. -/
def isBreak (c : Char) : Bool :=
  c == '\t' || c == '\n' || c == '\r'

/- The normal form of an absolute URL. -/
def normalize? (text : String) : Option String :=
  let input :=
    (trimBoth isEdge text).toList.filter
      (fun c => !isBreak c)
  match scheme? input with
  | some (scheme, rest) =>
      (afterScheme? scheme rest).map
        (fun after =>
          scheme ++ ":" ++ String.ofList after)
  | none => none

end Url

end RdfXml
