import RdfXml.Chunks
import RdfXml.Text.Separated

/-
  Files by their paths.

  Key definitions include:
    * `FileFault`
    * `FileInput`
    * `FileContent`
    * `FileTree`
    * `FileTree.find`
-/

------------------------------------------------------------
-- File Contents
------------------------------------------------------------

namespace RdfXml

/- Why the bytes of a file cannot be had. -/
inductive FileFault where
| notFound
| notDirectory
| isDirectory
| nameTooLong
| other (message : String)
deriving DecidableEq, Repr

namespace FileFault

/- The operating system's text for a fault. -/
def message : FileFault → String
| .notFound => "No such file or directory (os error 2)"
| .notDirectory => "Not a directory (os error 20)"
| .isDirectory => "Is a directory (os error 21)"
| .nameTooLong => "File name too long (os error 36)"
| .other text => text

end FileFault

/-
  What reading an open file gives: its bytes in chunks, and
  the fault that ended the reading, if there is one.
-/
structure FileInput where
  chunks : List (List UInt8)
  fault? : Option FileFault
deriving DecidableEq, Repr

namespace FileInput

/- A file that can be read to its end. -/
def ofBytes (bytes : List UInt8) : FileInput :=
  ⟨chunksOf documentChunkSize bytes, none⟩

/- A file that cannot be read at all. -/
def ofFault (fault : FileFault) : FileInput :=
  ⟨[], some fault⟩

end FileInput

/- What opening a file gives: its input, or a fault. -/
inductive FileContent where
| opened (input : FileInput)
| cannotOpen (fault : FileFault)
deriving DecidableEq, Repr

------------------------------------------------------------
-- File Trees
------------------------------------------------------------

/- The files below a directory, by the parts of their paths. -/
structure FileTree where
  files : List (List String × List UInt8)
deriving DecidableEq, Repr

namespace FileTree

/- The parts of a path between slashes. -/
def partsOf (path : String) : List String :=
  (splitString '/' path).filter (· != "")

/- A tree of files by their paths. -/
def ofList (files : List (String × List UInt8)) : FileTree :=
  ⟨files.map (fun file => (partsOf file.1, file.2))⟩

/- The bytes of the file at a place. -/
def bytes?
    (tree : FileTree)
    (place : List String) : Option (List UInt8) :=
  (tree.files.reverse.find? (fun file => file.1 == place)).map
    (fun file => file.2)

/- A place is a directory. -/
def isDirectory
    (tree : FileTree)
    (place : List String) : Bool :=
  place.isEmpty ||
    tree.files.any
      (fun file =>
        place.isPrefixOf file.1 && file.1 != place)

/- A part of a path that names a directory nearby. -/
def isDots (part : String) : Bool :=
  part = "." || part = ".."

/- The longest part of a path, in bytes. -/
def partLimit : Nat :=
  255

/- The longest path, in bytes. -/
def pathLimit : Nat :=
  4095

/-
  What lies above the tree, where nothing is known but the
  directories around it.
-/
def outside (parts : List String) : FileContent :=
  if parts.all isDots then .opened (.ofFault .isDirectory)
  else .cannotOpen .notFound

/- Follow the parts of a path from a directory of the tree. -/
def follow
    (tree : FileTree) :
    List String → List String → FileContent
| place, [] =>
    match tree.bytes? place with
    | some content => .opened (.ofBytes content)
    | none =>
        if tree.isDirectory place then
          .opened (.ofFault .isDirectory)
        else
          .cannotOpen .notFound
| place, part :: rest =>
    if (tree.bytes? place).isSome then
      .cannotOpen .notDirectory
    else if !tree.isDirectory place then
      .cannotOpen .notFound
    else if part = "." then
      follow tree place rest
    else if part = ".." then
      if place.isEmpty then outside rest
      else follow tree place.dropLast rest
    else if partLimit < part.utf8ByteSize then
      .cannotOpen .nameTooLong
    else
      follow tree (place ++ [part]) rest

/- The content of the file with a path. -/
def find
    (tree : FileTree)
    (path : String) : FileContent :=
  let parts := partsOf path
  let chars := path.toList
  if chars.isEmpty then
    .cannotOpen .notFound
  else if pathLimit < path.utf8ByteSize then
    .cannotOpen .nameTooLong
  else if chars.head? = some '/' then
    outside parts
  else if chars.getLast? = some '/' then
    tree.follow [] (parts ++ ["."])
  else
    tree.follow [] parts

end FileTree

end RdfXml
