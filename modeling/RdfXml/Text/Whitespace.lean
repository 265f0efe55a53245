import RdfXml.Text.Ascii
import RdfXml.Text.CharRanges

/-
  White space of the Unicode character database.

  Key definitions include:
    * `whitespaceRanges`
    * `isWhitespace`
    * `isWhitespaceOnly`
-/

------------------------------------------------------------
-- White Space
------------------------------------------------------------

namespace RdfXml

/- Characters with the White_Space property. -/
def whitespaceRanges : CharRanges where
  ranges :=
    [(0x09, 0x0D), (0x20, 0x20), (0x85, 0x85), (0xA0, 0xA0),
     (0x1680, 0x1680), (0x2000, 0x200A), (0x2028, 0x2029),
     (0x202F, 0x202F), (0x205F, 0x205F), (0x3000, 0x3000)]

/- White space in the sense of Unicode. -/
def isWhitespace (c : Char) : Bool :=
  whitespaceRanges.contains c

/- A text of white space alone. -/
def isWhitespaceOnly (text : String) : Bool :=
  text.toList.all isWhitespace

end RdfXml
