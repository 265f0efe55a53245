/-
  Bytes and characters of the ASCII range.

  Key definitions include:
    * `byte`
    * `bytes`
    * `isBlankByte`
    * `isAsciiLetter`
    * `lowerByte`
    * `lowerString`
-/

------------------------------------------------------------
-- Bytes
------------------------------------------------------------

namespace RdfXml

/- The byte of an ASCII character. -/
def byte (c : Char) : UInt8 :=
  c.toNat.toUInt8

/- The bytes of a text of ASCII characters. -/
def bytes (text : String) : List UInt8 :=
  text.toList.map byte

/- XML white space: space, tab, carriage return, line feed. -/
def isBlankByte (b : UInt8) : Bool :=
  b == byte ' ' || b == byte '\t' ||
    b == byte '\r' || b == byte '\n'

/- The byte with an ASCII capital letter made small. -/
def lowerByte (b : UInt8) : UInt8 :=
  if byte 'A' ≤ b && b ≤ byte 'Z' then b + 32 else b

------------------------------------------------------------
-- Characters
------------------------------------------------------------

/- XML white space: space, tab, carriage return, line feed. -/
def isXmlBlank (c : Char) : Bool :=
  c == ' ' || c == '\t' || c == '\n' || c == '\r'

/- The letters A to Z of either case. -/
def isAsciiLetter (c : Char) : Bool :=
  ('a' ≤ c && c ≤ 'z') || ('A' ≤ c && c ≤ 'Z')

/- The digits 0 to 9. -/
def isAsciiDigit (c : Char) : Bool :=
  '0' ≤ c && c ≤ '9'

/- ASCII letters and digits. -/
def isAsciiAlphanumeric (c : Char) : Bool :=
  isAsciiLetter c || isAsciiDigit c

/- The value of a hexadecimal digit of either case. -/
def hexDigit? (c : Char) : Option Nat :=
  if '0' ≤ c && c ≤ '9' then
    some (c.toNat - '0'.toNat)
  else if 'a' ≤ c && c ≤ 'f' then
    some (c.toNat - 'a'.toNat + 10)
  else if 'A' ≤ c && c ≤ 'F' then
    some (c.toNat - 'A'.toNat + 10)
  else
    none

/- Hexadecimal digits of either case. -/
def isHexDigit (c : Char) : Bool :=
  (hexDigit? c).isSome

/- The character with an ASCII capital letter made small. -/
def lowerChar (c : Char) : Char :=
  if 'A' ≤ c && c ≤ 'Z' then
    Char.ofNat (c.toNat + 32)
  else
    c

/- The text with ASCII capital letters made small. -/
def lowerString (text : String) : String :=
  String.ofList (text.toList.map lowerChar)

/- Drop characters of a class at both ends of a text. -/
def trimBoth
    (drop : Char → Bool)
    (text : String) : String :=
  String.ofList
    (((text.toList.dropWhile drop).reverse.dropWhile
      drop).reverse)

end RdfXml
