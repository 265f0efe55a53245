import RdfXml.Text.Ascii
import RdfXml.Text.CharRanges

/-
  Names of elements and attributes.

  A qualified name is a local name with an optional prefix
  before a colon.  A `Name` also carries the namespace that
  its prefix stands for.

  Key definitions include:
    * `NCName.isName`
    * `QName`
    * `QName.ofString`
    * `Name`
    * `Name.expanded`
    * `Name.qualified`
    * `Name.denotes`
-/

------------------------------------------------------------
-- Name Characters
------------------------------------------------------------

namespace RdfXml

namespace NCName

/- Characters beyond ASCII letters that may begin a name. -/
def startRanges : CharRanges where
  ranges :=
    [(0x41, 0x5A), (0x5F, 0x5F), (0x61, 0x7A), (0xC0, 0xD6),
     (0xD8, 0xF6), (0xF8, 0x2FF), (0x370, 0x37D),
     (0x37F, 0x1FFF), (0x200C, 0x200D), (0x2070, 0x218F),
     (0x2C00, 0x2FEF), (0x3001, 0xD7FF), (0xF900, 0xFDCF),
     (0x10000, 0xEFFFF)]

/- Characters that may stand only after the first one. -/
def continueRanges : CharRanges where
  ranges :=
    [(0x2D, 0x2E), (0x30, 0x39), (0xB7, 0xB7),
     (0x300, 0x36F), (0x203F, 0x2040)]

/- A character that may begin a name without a colon. -/
def isStart (c : Char) : Bool :=
  startRanges.contains c

/- A character that may occur in a name without a colon. -/
def isPart (c : Char) : Bool :=
  isStart c || continueRanges.contains c

/- A nonempty name without a colon. -/
def isNameChars : List Char → Bool
| [] => false
| c :: rest => isStart c && rest.all isPart

/- A nonempty name without a colon. -/
def isName (text : String) : Bool :=
  isNameChars text.toList

end NCName

------------------------------------------------------------
-- Qualified Names
------------------------------------------------------------

/- A name as written: a local name and its prefix, if any. -/
structure QName where
  label? : Option String
  localName : String
deriving DecidableEq, Repr

namespace QName

/-
  Cut a list at its first colon: the part before it and the
  part after it.
-/
def cutAtColon :
    List Char → Option (List Char × List Char)
| [] => none
| c :: rest =>
    if c = ':' then
      some ([], rest)
    else
      (cutAtColon rest).map
        (fun parts => (c :: parts.1, parts.2))

/- The prefix is what precedes the first colon. -/
def ofString (text : String) : QName :=
  match cutAtColon text.toList with
  | some (label, rest) =>
      ⟨some (String.ofList label), String.ofList rest⟩
  | none => ⟨none, text⟩

/- The name as written. -/
def text (name : QName) : String :=
  match name.label? with
  | some label => label ++ ":" ++ name.localName
  | none => name.localName

end QName

------------------------------------------------------------
-- Names With Namespaces
------------------------------------------------------------

/- A qualified name with the namespace it belongs to. -/
structure Name extends QName where
  space? : Option String
deriving DecidableEq, Repr

namespace Name

/- The namespace followed by the local name. -/
def expanded (name : Name) : String :=
  match name.space? with
  | some space => space ++ name.localName
  | none => name.localName

/- The name as written in the document. -/
def qualified (name : Name) : String :=
  name.toQName.text

/- The name has this namespace and this local name. -/
def denotes
    (name : Name)
    (space localName : String) : Bool :=
  name.space? == some space && name.localName == localName

end Name

end RdfXml
