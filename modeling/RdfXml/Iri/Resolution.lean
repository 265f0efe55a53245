import RdfXml.Iri.Parts

/-
  Resolution of references against a base.

  Dot segments are removed only where the reference has them:
  those of the base's own path stay.  Without an authority
  a path may lose its first slash this way.

  Key definitions include:
    * `Iri.Path`
    * `Iri.Path.enter`
    * `Iri.Path.follow`
    * `Iri.Parts.resolve`
    * `Iri.resolve`
    * `Iri.resolutionFault?`
-/

------------------------------------------------------------
-- Paths By Segments
------------------------------------------------------------

namespace RdfXml

namespace Iri

/-
  The directory part of a path: segments that a slash ends,
  innermost first.
-/
abbrev Path :=
  List (List Char)

namespace Path

/- A segment that stands for a directory. -/
def isDotSegment (segment : List Char) : Bool :=
  segment = ['.'] || segment = ['.', '.']

/- The characters of a directory, its last slash included. -/
def toChars : Path → List Char
| [] => []
| segment :: outer => toChars outer ++ segment ++ ['/']

/-
  The directory around a directory.  The root of an authority
  is its own parent.
-/
def parent
    (hasAuthority : Bool) : Path → Path
| [] => []
| [root] => if hasAuthority then [root] else []
| _ :: outer => outer

/-
  A directory that a dot segment leads to.  Without an
  authority it must not look like one.
-/
def reached
    (hasAuthority : Bool)
    (directory : Path) : Except Fault Path :=
  if !hasAuthority &&
      (toChars directory).take 2 = ['/', '/'] then
    .error .twoSlashes
  else
    .ok directory

/- The directory after one segment with a slash behind it. -/
def enter
    (hasAuthority : Bool)
    (directory : Path)
    (segment : List Char) : Except Fault Path :=
  if segment = ['.'] then
    reached hasAuthority directory
  else if segment = ['.', '.'] then
    reached hasAuthority (parent hasAuthority directory)
  else
    .ok (segment :: directory)

/-
  Follow the segments of a relative path from a directory.
  Only the last segment has no slash behind it.
-/
def follow
    (hasAuthority : Bool) :
    Path → List (List Char) → Except Fault (List Char)
| directory, [] => .ok (toChars directory)
| directory, [last] =>
    if isDotSegment last then
      (enter hasAuthority directory last).map toChars
    else
      .ok (toChars directory ++ last)
| directory, segment :: rest =>
    match enter hasAuthority directory segment with
    | .error fault => .error fault
    | .ok directory => follow hasAuthority directory rest

/- The directory that a path lies in. -/
def directoryOf
    (hasAuthority : Bool)
    (path : List Char) : Path :=
  if hasAuthority && path.isEmpty then
    [[]]
  else
    (splitOn '/' path).dropLast.reverse

end Path

------------------------------------------------------------
-- Resolution
------------------------------------------------------------

namespace Parts

/- The path of a reference with its dot segments removed. -/
def followPath
    (hasAuthority : Bool)
    (base path : List Char) : Except Fault (List Char) :=
  match path with
  | '/' :: rest =>
      Path.follow hasAuthority [[]] (splitOn '/' rest)
  | path =>
      Path.follow hasAuthority
        (Path.directoryOf hasAuthority base)
        (splitOn '/' path)

/- The path of the target of a reference without authority. -/
def targetPath
    (base reference : Parts) : Except Fault (List Char) :=
  if reference.path.isEmpty then .ok base.path
  else
    followPath base.authority?.isSome base.path
      reference.path

/- The query of the target of such a reference. -/
def targetQuery?
    (base reference : Parts) : Option (List Char) :=
  if reference.path.isEmpty then
    reference.query?.or base.query?
  else
    reference.query?

/-
  The target that a reference without a scheme denotes.  A
  reference with an authority keeps its path as it is.
-/
def target
    (base reference : Parts) : Except Fault Parts :=
  match reference.authority? with
  | some authority =>
      .ok
        { reference with
          scheme? := base.scheme?
          authority? := some authority }
  | none =>
      (base.targetPath reference).map
        (fun path =>
          { scheme? := base.scheme?
            authority? := base.authority?
            path
            query? := base.targetQuery? reference
            fragment? := reference.fragment? })

/-
  A target without an authority must not have a path that
  looks like one.
-/
def checkTarget (target : Parts) : Except Fault Parts :=
  if target.authority?.isNone &&
      target.path.take 2 = ['/', '/'] then
    .error .twoSlashes
  else
    .ok target

/- Resolve a reference. -/
def resolve
    (base reference : Parts) : Except Fault Parts :=
  match reference.check with
  | .error fault => .error fault
  | .ok () =>
      if reference.scheme?.isSome then .ok reference
      else (base.target reference).bind checkTarget

end Parts

/-
  The text of a reference resolved against an IRI, or the
  fault of either, the base's first.
-/
def resolveAgainst
    (base reference : String) :
    Except Fault (Except Fault String) :=
  (parse base).map
    (fun parts =>
      (parts.resolve (Parts.split reference.toList)).map
        (fun target => String.ofList target.toChars))

/-
  Resolve a reference against a base.  An absolute reference
  stays as it is, and one that cannot be resolved is appended
  to the base.
-/
def resolve (base reference : String) : String :=
  if isAbsolute reference then
    reference
  else
    match resolveAgainst base reference with
    | .ok (.ok iri) => iri
    | _ => base ++ reference

/-
  The fault of a reference that does not fit a base which is
  itself an IRI.
-/
def resolutionFault?
    (base reference : String) : Option Fault :=
  if isAbsolute reference then
    none
  else
    match resolveAgainst base reference with
    | .ok (.error fault) => some fault
    | _ => none

end Iri

end RdfXml
