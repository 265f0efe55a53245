import RdfXml.Text.Ascii
import RdfXml.Text.CharRanges

/-
  Labels of blank nodes in Turtle and N-Triples.

  Key definitions include:
    * `BlankNodeLabel.isStart`
    * `BlankNodeLabel.isPart`
    * `BlankNodeLabel.isValid`
-/

------------------------------------------------------------
-- Label Syntax
------------------------------------------------------------

namespace RdfXml

namespace BlankNodeLabel

/- Characters that may begin a label. -/
def startRanges : CharRanges where
  ranges :=
    [(0x30, 0x3A), (0x41, 0x5A), (0x5F, 0x5F), (0x61, 0x7A),
     (0xC0, 0xD6), (0xD8, 0xF6), (0xF8, 0x2FF),
     (0x370, 0x37D), (0x37F, 0x1FFF), (0x200C, 0x200D),
     (0x2070, 0x218F), (0x2C00, 0x2FEF), (0x3001, 0xD7FF),
     (0xF900, 0xFDCF), (0xFDF0, 0xFFFD), (0x10000, 0xEFFFF)]

/- Characters that may stand only after the first one. -/
def continueRanges : CharRanges where
  ranges :=
    [(0x2D, 0x2E), (0xB7, 0xB7), (0x300, 0x36F),
     (0x203F, 0x2040)]

/- A character that may begin a label. -/
def isStart (c : Char) : Bool :=
  startRanges.contains c

/- A character that may occur in a label. -/
def isPart (c : Char) : Bool :=
  isStart c || continueRanges.contains c

/- A nonempty label, which does not end in a dot. -/
def isValidChars : List Char → Bool
| [] => false
| c :: rest =>
    isStart c && rest.all isPart &&
      (c :: rest).getLast? != some '.'

/- A nonempty label, which does not end in a dot. -/
def isValid (label : String) : Bool :=
  isValidChars label.toList

end BlankNodeLabel

end RdfXml
