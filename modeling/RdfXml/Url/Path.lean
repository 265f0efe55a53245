import RdfXml.Url.PercentEncoding
import RdfXml.Url.Scheme

/-
  Paths of URLs in their normal form.

  Dot segments are followed, but none leads out of a segment
  that names a drive.  The path of a file keeps no empty
  segments in front, and a drive that comes first is written
  with a colon.

  Key definitions include:
    * `Url.isDrive`
    * `Url.Directory`
    * `Url.normalSegments`
    * `Url.pathText`
    * `Url.filePath`
-/

------------------------------------------------------------
-- Segments
------------------------------------------------------------

namespace RdfXml

namespace Url

/- A segment for the directory itself. -/
def isSingleDot (segment : List Char) : Bool :=
  [".", "%2e"].contains
    (String.ofList (segment.map lowerChar))

/- A segment for the directory around the directory. -/
def isDoubleDot (segment : List Char) : Bool :=
  ["..", ".%2e", "%2e.", "%2e%2e"].contains
    (String.ofList (segment.map lowerChar))

/- A letter and a colon, or a bar in its place. -/
def isDrive : List Char → Bool
| [letter, mark] =>
    isAsciiLetter letter && (mark == ':' || mark == '|')
| _ => false

/- A segment with its first drive written with a colon. -/
def driveText (segment : List Char) : List Char :=
  segment.take 1 ++ [':']

------------------------------------------------------------
-- Directories
------------------------------------------------------------

/- The segments of a directory, innermost first. -/
abbrev Directory :=
  List (List Char)

namespace Directory

/- The directory around a directory.  A drive has none. -/
def parent : Directory → Directory
| [] => []
| segment :: outer =>
    if isDrive segment then segment :: outer else outer

/- Go on with one more segment. -/
def enter
    (directory : Directory)
    (isFile isLast : Bool)
    (segment : List Char) : Directory :=
  if isDoubleDot segment then
    if isLast then [] :: parent directory
    else parent directory
  else if isSingleDot segment then
    if isLast then [] :: directory else directory
  else if isFile && directory.isEmpty && isDrive segment then
    [driveText segment]
  else
    encodeWith inPathSet segment :: directory

end Directory

/- The segments of a path behind those of a directory. -/
def normalSegments
    (isFile : Bool) :
    Directory → List (List Char) → List (List Char)
| directory, [] => directory.reverse
| directory, segment :: rest =>
    normalSegments isFile
      (directory.enter isFile rest.isEmpty segment) rest

/- Segments with a slash in front of each. -/
def segmentsText (segments : List (List Char)) : List Char :=
  segments.flatMap (fun segment => '/' :: segment)

------------------------------------------------------------
-- Paths
------------------------------------------------------------

/- A path whose backslashes are slashes. -/
def withSlashes (path : List Char) : List Char :=
  path.map (fun c => if c = '\\' then '/' else c)

/- A path without the slash in front. -/
def dropSlash : List Char → List Char
| '/' :: rest => rest
| path => path

/- The normal segments of a path. -/
def pathSegments
    (isSpecial : Bool)
    (path : List Char) : List (List Char) :=
  if isSpecial then
    normalSegments false []
      (splitOn '/' (dropSlash (withSlashes path)))
  else if path.isEmpty then
    []
  else
    normalSegments false [] (splitOn '/' (dropSlash path))

/- The normal form of a path. -/
def pathText
    (isSpecial : Bool)
    (path : List Char) : List Char :=
  segmentsText (pathSegments isSpecial path)

------------------------------------------------------------
-- Paths Of Files
------------------------------------------------------------

/- The path of a file, and whether it is on a drive. -/
structure FilePath where
  text : List Char
  hasDrive : Bool

/- Segments without the empty ones in front. -/
def dropEmpty
    (segments : List (List Char)) : List (List Char) :=
  match segments.dropWhile List.isEmpty with
  | [] => [[]]
  | rest => rest

/- A segment is a drive where the root is the directory. -/
def reachesDrive :
    Directory → List (List Char) → Bool
| _, [] => false
| directory, segment :: rest =>
    (directory.isEmpty && isDrive segment) ||
      reachesDrive
        (directory.enter true rest.isEmpty segment) rest

/- The normal form of the path of a file below the root. -/
def filePath (path : List Char) : FilePath :=
  let segments := splitOn '/' (withSlashes path)
  { text :=
      segmentsText
        (dropEmpty (normalSegments true [] segments))
    hasDrive := reachesDrive [] segments }

end Url

end RdfXml
